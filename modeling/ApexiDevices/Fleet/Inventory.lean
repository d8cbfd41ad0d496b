import ApexiDevices.Fleet.ProvisionDevice
import ApexiDevices.Shared.Outcome

set_option autoImplicit false

/-!
# Deliveries on record

What a commissioning run may leave in the inventory, at its end and at every
point where it can die, and what follows over any sequence of runs.
-/

namespace ApexiDevices.ProvisionDevice

open Device

section Texts

theorem text_ok {value : Json} {field read : String} {maximum minimum : Nat}
    (accepted : text value field maximum minimum = .ok read) : value = .string read := by
  unfold text at accepted
  split at accepted
  · split at accepted
    · cases accepted
    · split at accepted <;> cases accepted
      rfl
  · cases accepted

structure Named (metadata : Members) : Prop where
  friendlyName : ∃ name, metadata.get "friendly_name" = .string name
  hardwareRevision : ∃ revision, metadata.get "hardware_revision" = .string revision
  provisionedAt : ∃ time, metadata.get "provisioned_at" = .string time

theorem validateIdentity_named {bundle : Members} (accepted : validateIdentity bundle = .ok ()) :
    Named bundle := by
  obtain ⟨name, named, accepted⟩ := bind_ok accepted
  obtain ⟨revision, revised, accepted⟩ := bind_ok accepted
  obtain ⟨time, timed, accepted⟩ := bind_ok accepted
  exact ⟨⟨name, text_ok named⟩, ⟨revision, text_ok revised⟩, ⟨time, text_ok timed⟩⟩

theorem validateBundle_named {now observed : String} {bundle : Json} {metadata : Members}
    (accepted : validateBundle now bundle observed = .ok metadata) : Named metadata := by
  unfold validateBundle at accepted
  split at accepted
  · obtain ⟨_, _, accepted⟩ := bind_ok accepted
    dsimp only at accepted
    obtain ⟨_, identity, accepted⟩ := bind_ok accepted
    have named := validateIdentity_named identity
    generalize bindIdentity _ _ _ = result at accepted named
    split at accepted
    · split at accepted
      · split at accepted
        · obtain ⟨_, _, accepted⟩ := bind_ok accepted
          obtain ⟨_, _, accepted⟩ := bind_ok accepted
          obtain ⟨_, _, accepted⟩ := bind_ok accepted
          cases accepted
          -- the member set last is none of the three
          exact ⟨by simpa using named.friendlyName, by simpa using named.hardwareRevision,
            by simpa using named.provisionedAt⟩
        · cases accepted
      · cases accepted
    · cases accepted
  · cases accepted

end Texts

section Entries

theorem holds_iff {entry : Members} {key text : String} :
    holds entry key text = true ↔ entry.get key = .string text := Json.equal_string

variable {observed : String} {metadata : Members}

theorem safeEntry_id (status : String) : holds (safeEntry observed metadata status) "device_id" observed = true :=
  holds_iff.mpr rfl

theorem setStatus_safeEntry (status later : String) :
    setStatus (safeEntry observed metadata status) later = safeEntry observed metadata later := rfl

theorem setStatus_holds {entry : Members} {text : String} (status : String) :
    holds (setStatus entry status) "device_id" text = holds entry "device_id" text := by
  unfold holds setStatus
  rw [Members.get_set, if_neg (by decide)]

theorem setStatus_status (entry : Members) (status : String) :
    (setStatus entry status).get "status" = .string status := by
  rw [setStatus, Members.get_set, if_pos rfl]

theorem equal_safeEntry_id {status : String} {entry : Members}
    (same : Json.equal (.object (safeEntry observed metadata status)) (.object entry) = true) :
    holds entry "device_id" observed = true := by
  obtain ⟨-, members⟩ := Json.equal_object.mp same
  rw [safeEntry, Json.equalMembers_cons] at members
  obtain ⟨⟨value, found, text⟩, -⟩ := members
  rw [holds_iff, Members.get, found]
  exact Json.string_equal.mp text

theorem safeEntry_equal (named : Named metadata) (status : String) :
    Json.equal (.object (safeEntry observed metadata status))
      (.object (safeEntry observed metadata status)) = true := by
  obtain ⟨name, nameText⟩ := named.friendlyName
  obtain ⟨revision, revisionText⟩ := named.hardwareRevision
  obtain ⟨time, timeText⟩ := named.provisionedAt
  simp [safeEntry, Json.equal_object, Members.find?, nameText, revisionText, timeText]

end Entries

section Devices

variable (observed : String)

def own (devices : List Members) : List Members :=
  devices.filter fun entry => holds entry "device_id" observed

def others (devices : List Members) : List Members :=
  devices.filter fun entry => !holds entry "device_id" observed

variable {observed} {entry : Members}

theorem mem_own {devices : List Members} (member : entry ∈ own observed devices) :
    holds entry "device_id" observed = true := (List.mem_filter.mp member).2

variable (named : holds entry "device_id" observed = true)

theorem existing_own (devices : List Members) : existing observed devices = (own observed devices).head? := by
  rw [existing, own, List.head?_filter]

include named in
theorem own_assign (devices : List Members) :
    own observed (assign observed entry devices) =
      match own observed devices with
      | [] => []
      | _ :: rest => entry :: rest := by
  induction devices with
  | nil => rfl
  | cons first rest ih =>
    by_cases mine : holds first "device_id" observed = true
    · simp [assign, own, mine, named]
    · rw [assign, if_neg mine]
      simpa [own, mine] using ih

include named in
theorem others_assign (devices : List Members) :
    others observed (assign observed entry devices) = others observed devices := by
  induction devices with
  | nil => rfl
  | cons first rest ih =>
    by_cases mine : holds first "device_id" observed = true
    · simp [assign, others, mine, named]
    · rw [assign, if_neg mine]
      simpa [others, mine] using ih

theorem own_append (devices : List Members) :
    own observed (devices ++ [entry]) = own observed devices ++ own observed [entry] :=
  List.filter_append _ _

theorem others_append (devices : List Members) :
    others observed (devices ++ [entry]) = others observed devices ++ others observed [entry] :=
  List.filter_append _ _

include named in
theorem own_single : own observed [entry] = [entry] := by simp [own, named]

include named in
theorem others_single : others observed [entry] = [] := by simp [others, named]

variable {same : Members → Bool} (mine : ∀ entry, same entry = true → holds entry "device_id" observed = true)

include mine in
theorem own_eraseP (devices : List Members) :
    own observed (devices.eraseP same) = (own observed devices).eraseP same := by
  induction devices with
  | nil => rfl
  | cons first rest ih =>
    by_cases found : same first = true
    · simp [own, found, mine first found]
    · by_cases held : holds first "device_id" observed = true <;>
        simpa [own, found, held] using ih

include mine in
theorem others_eraseP (devices : List Members) :
    others observed (devices.eraseP same) = others observed devices := by
  induction devices with
  | nil => rfl
  | cons first rest ih =>
    by_cases found : same first = true
    · simp [others, found, mine first found]
    · by_cases held : holds first "device_id" observed = true <;>
        simpa [others, found, held] using ih

section Record

variable {devices entries : List Members} {metadata : Members} {status : String}

theorem own_record (held : own observed devices = entries) (short : entries.length ≤ 1) :
    own observed (record observed entries.head? (safeEntry observed metadata status) devices) =
      [safeEntry observed metadata status] := by
  match entries, short with
  | [], _ => rw [List.head?_nil, record, own_append, held, own_single (safeEntry_id _), List.nil_append]
  | [previous], _ => rw [List.head?_cons, record, own_assign (safeEntry_id _), held]

theorem others_record (previous : Option Members) :
    others observed (record observed previous (safeEntry observed metadata status) devices) =
      others observed devices := by
  cases previous with
  | none => rw [record, others_append, others_single (safeEntry_id _), List.append_nil]
  | some previous => rw [record, others_assign (safeEntry_id _)]

theorem own_withdraw (named : Named metadata) (mine : ∀ entry ∈ entries, holds entry "device_id" observed = true)
    (held : own observed devices = [safeEntry observed metadata status]) (short : entries.length ≤ 1) :
    own observed (withdraw observed entries.head? (safeEntry observed metadata status) devices) = entries := by
  match entries, short with
  | [], _ =>
    rw [List.head?_nil, withdraw, own_eraseP fun _ => equal_safeEntry_id, held]
    exact List.eraseP_cons_of_pos (safeEntry_equal named status)
  | [previous], _ => rw [List.head?_cons, withdraw, own_assign (mine previous (by simp)), held]

theorem others_withdraw (mine : ∀ entry ∈ entries, holds entry "device_id" observed = true) :
    others observed (withdraw observed entries.head? (safeEntry observed metadata status) devices) =
      others observed devices := by
  cases entries with
  | nil => rw [List.head?_nil, withdraw, others_eraseP fun _ => equal_safeEntry_id]
  | cons previous rest => rw [List.head?_cons, withdraw, others_assign (mine previous (by simp))]

end Record

theorem mem_own_or_others {devices : List Members} (member : entry ∈ devices) :
    entry ∈ own observed devices ∨ entry ∈ others observed devices := by
  by_cases held : holds entry "device_id" observed = true
  · exact .inl (List.mem_filter.mpr ⟨member, held⟩)
  · exact .inr (List.mem_filter.mpr ⟨member, by simpa using held⟩)

end Devices

section Runs

inductive Delivery where
  | none
  | begun
  | ended (outcome : Except Raised Unit)

structure Site where
  file : Option Inventory
  delivery : Delivery

def stored (file : Option Inventory) : List Members := (file.getD emptyInventory).entries

def Site.devices (site : Site) : List Members := stored site.file

/-- Reads and writes may fail; a failed or interrupted write has replaced the file or not. -/
def site : Model Fleet Site where
  step state op reply last :=
    match op with
    | .read => last = state ∧ (reply = .ok state.file ∨ ∃ raised, reply = .error raised)
    | .write inventory =>
      (reply = .ok () ∧ last = { state with file := some inventory }) ∨
        ∃ raised, reply = .error raised ∧ (last = state ∨ last = { state with file := some inventory })
    | .deliver _ => last = { state with delivery := .ended reply }
  torn state op last :=
    match op with
    | .read => last = state
    | .write inventory => last = state ∨ last = { state with file := some inventory }
    | .deliver _ => last = { state with delivery := .begun }

structure Commission where
  now : String
  deviceId : String
  bundle : Json
  reprovision : Bool

def Commission.run (commission : Commission) : Prog Fleet (Except Raised Unit) :=
  commissionIdentity commission.now commission.deviceId commission.bundle commission.reprovision
    fun metadata => Prog.request (S := Fleet) (.deliver metadata)

def Commission.validated (commission : Commission) : Except String Members :=
  validateBundle commission.now commission.bundle commission.deviceId

/-- How far a run has come: its delivery, and the entries of its id, which were `before`. -/
inductive Commission.Stage (commission : Commission) (before : List Members) :
    Delivery → List Members → Prop
  | untouched : Stage commission before .none before
  | settled {entry : Members} (alone : before = [entry]) (pending : holds entry "status" "pending" = true) :
      Stage commission before .none [setStatus entry "indeterminate"]
  | pending {delivery : Delivery} {metadata : Members} (allowed : before ≠ [] → commission.reprovision = true)
      (accepted : commission.validated = .ok metadata) :
      Stage commission before delivery [safeEntry commission.deviceId metadata "pending"]
  | indeterminate {delivery : Delivery} {metadata : Members}
      (allowed : before ≠ [] → commission.reprovision = true)
      (accepted : commission.validated = .ok metadata) :
      Stage commission before delivery [safeEntry commission.deviceId metadata "indeterminate"]
  | committed {metadata : Members} (allowed : before ≠ [] → commission.reprovision = true)
      (accepted : commission.validated = .ok metadata) :
      Stage commission before (.ended (.ok ())) [safeEntry commission.deviceId metadata "committed"]
  | withdrawn {message : String} {entries : List Members}
      (allowed : before ≠ [] → commission.reprovision = true)
      (restored : Stage commission before .none entries) :
      Stage commission before (.ended (.error (.provisioningError message))) entries

def Commission.At (commission : Commission) (before rest : List Members) (state : Site) : Prop :=
  commission.Stage before state.delivery (own commission.deviceId state.devices) ∧
    others commission.deviceId state.devices = rest

def Site.replaced (state : Site) (inventory : Inventory) (devices : List Members) : Site :=
  { state with file := some { inventory with devices := some devices } }

@[simp] theorem replaced_devices (state : Site) (inventory : Inventory) (devices : List Members) :
    (state.replaced inventory devices).devices = devices := rfl

@[simp] theorem replaced_delivery (state : Site) (inventory : Inventory) (devices : List Members) :
    (state.replaced inventory devices).delivery = state.delivery := rfl

theorem wp_writeInventory {α : Type} {inventory : Inventory} {devices : List Members}
    {rest : Prog Fleet (Except Raised α)} {post : Except Raised α → Site → Prop} {crash : Site → Prop}
    {state : Site} (kept : crash state) (failed : ∀ raised last, crash last → post (.error raised) last)
    (written : site.wp rest post crash (state.replaced inventory devices)) :
    site.wp (writeInventory inventory devices rest) post crash state := by
  have replaced := Model.wp_crash written
  apply Model.wp_bind.mpr
  refine ⟨kept, ?_, ?_⟩
  · rintro last (rfl | rfl)
    · exact kept
    · exact replaced
  · rintro reply last (⟨rfl, rfl⟩ | ⟨raised, rfl, rfl | rfl⟩)
    · exact ⟨replaced, written⟩
    · exact ⟨kept, kept, failed raised _ kept⟩
    · exact ⟨replaced, replaced, failed raised _ replaced⟩

theorem wp_lastWrite {α : Type} {inventory : Inventory} {devices : List Members} {result : Except Raised α}
    {crash : Site → Prop} {state : Site} (kept : crash state)
    (replaced : crash (state.replaced inventory devices)) :
    site.wp (writeInventory inventory devices (return result)) (fun _ => crash) crash state :=
  wp_writeInventory kept (fun _ _ reached => reached) ⟨replaced, replaced⟩

variable {commission : Commission} {before rest : List Members}

theorem Commission.Stage.length_le (short : before.length ≤ 1) {delivery : Delivery} {entries : List Members}
    (stage : commission.Stage before delivery entries) : entries.length ≤ 1 := by
  induction stage with
  | untouched => exact short
  | withdrawn _ _ ih => exact ih
  | settled | pending | indeterminate | committed => exact Nat.le_refl 1

def Commission.Settled (commission : Commission) (before rest : List Members)
    (result : Except Raised (List Members)) (last : Site) : Prop :=
  commission.At before rest last ∧
    ∀ devices, result = .ok devices → last.devices = devices ∧ last.delivery = .none

theorem settlePending_spec {inventory : Inventory} {state : Site} (short : before.length ≤ 1)
    (fresh : state.delivery = .none) (start : own commission.deviceId state.devices = before)
    (kept : others commission.deviceId state.devices = rest) :
    site.wp (settlePending commission.deviceId inventory state.devices) (commission.Settled before rest)
      (commission.At before rest) state := by
  have untouched : commission.At before rest state := by
    refine ⟨?_, kept⟩
    rw [fresh, start]
    exact .untouched
  have unchanged : commission.Settled before rest (.ok state.devices) state := by
    refine ⟨untouched, ?_⟩
    rintro devices ⟨⟩
    exact ⟨rfl, fresh⟩
  unfold settlePending
  rw [existing_own, start]
  match before, short with
  | [], _ => exact ⟨untouched, unchanged⟩
  | [entry], _ =>
    dsimp only [List.head?_cons]
    split
    · rename_i pending
      have mine : holds entry "device_id" commission.deviceId = true := mem_own (start ▸ List.mem_singleton_self entry)
      have named : holds (setStatus entry "indeterminate") "device_id" commission.deviceId = true := by
        rw [setStatus_holds, mine]
      apply wp_writeInventory untouched
      · exact fun raised last reached => ⟨reached, fun devices impossible => by cases impossible⟩
      · have settled : commission.At [entry] rest (state.replaced inventory
            (assign commission.deviceId (setStatus entry "indeterminate") state.devices)) := by
          refine ⟨?_, by rw [replaced_devices, others_assign named, kept]⟩
          rw [replaced_devices, own_assign named, start, replaced_delivery, fresh]
          exact .settled rfl pending
        refine ⟨settled, settled, ?_⟩
        rintro devices ⟨⟩
        exact ⟨rfl, fresh⟩
    · exact ⟨untouched, unchanged⟩

theorem Commission.at_written {inventory : Inventory} {devices entries : List Members} {delivery : Delivery}
    (mine : own commission.deviceId devices = entries) (kept : others commission.deviceId devices = rest)
    (stage : commission.Stage before delivery entries) :
    commission.At before rest ⟨some { inventory with devices := some devices }, delivery⟩ := by
  subst mine
  exact ⟨stage, kept⟩

theorem deliverRecorded_spec {inventory : Inventory} {metadata : Members} {entries : List Members}
    {state : Site} (accepted : commission.validated = .ok metadata)
    (allowed : before ≠ [] → commission.reprovision = true) (reached : commission.At before rest state)
    (fresh : state.delivery = .none) (held : own commission.deviceId state.devices = entries)
    (short : entries.length ≤ 1) :
    site.wp (deliverRecorded commission.deviceId inventory state.devices entries.head? metadata
        fun metadata => Prog.request (S := Fleet) (.deliver metadata))
      (fun _ => commission.At before rest) (commission.At before rest) state := by
  have stage : commission.Stage before .none entries := by
    have stage := reached.1
    rwa [fresh, held] at stage
  have mine (entry : Members) (member : entry ∈ entries) :
      holds entry "device_id" commission.deviceId = true := mem_own (held ▸ member)
  unfold deliverRecorded
  extract_lets entry recorded
  have ownRecorded : own commission.deviceId recorded = [entry] := own_record held short
  have othersRecorded : others commission.deviceId recorded = rest := by
    rw [← reached.2]
    exact others_record _
  have settled (status : String) :
      own commission.deviceId (assign commission.deviceId (setStatus entry status) recorded) =
          [safeEntry commission.deviceId metadata status] ∧
        others commission.deviceId (assign commission.deviceId (setStatus entry status) recorded) = rest := by
    rw [setStatus_safeEntry, own_assign (safeEntry_id _), others_assign (safeEntry_id _), ownRecorded]
    exact ⟨rfl, othersRecorded⟩
  have pending (delivery : Delivery) :
      commission.At before rest ⟨some { inventory with devices := some recorded }, delivery⟩ :=
    Commission.at_written ownRecorded othersRecorded (.pending allowed accepted)
  apply wp_writeInventory reached fun _ _ reached => reached
  apply Model.wp_bind.mpr
  refine ⟨pending _, ?_, ?_⟩
  · rintro last rfl
    exact pending .begun
  · rintro outcome last rfl
    refine ⟨pending _, ?_⟩
    match outcome with
    | .error (.provisioningIndeterminate message) =>
      apply wp_lastWrite (pending _)
      exact Commission.at_written (settled _).1 (settled _).2 (.indeterminate allowed accepted)
    | .error (.provisioningError message) =>
      apply wp_lastWrite (pending _)
      apply Commission.at_written (own_withdraw (validateBundle_named accepted) mine ownRecorded short)
      · exact (others_withdraw mine).trans othersRecorded
      · exact .withdrawn allowed stage
    | .error .exception =>
      apply wp_lastWrite (pending _)
      exact Commission.at_written (settled _).1 (settled _).2 (.indeterminate allowed accepted)
    | .error .interrupt => exact ⟨pending _, pending _⟩
    | .ok () =>
      apply wp_lastWrite (pending _)
      exact Commission.at_written (settled _).1 (settled _).2 (.committed allowed accepted)

theorem run_spec {file : Option Inventory}
    (start : own commission.deviceId (stored file) = before) (short : before.length ≤ 1)
    (kept : others commission.deviceId (stored file) = rest) :
    site.wp commission.run (fun _ => commission.At before rest) (commission.At before rest) ⟨file, .none⟩ := by
  have untouched : commission.At before rest ⟨file, .none⟩ := ⟨start ▸ .untouched, kept⟩
  unfold Commission.run commissionIdentity
  split
  · exact ⟨untouched, untouched⟩
  · rename_i metadata accepted
    apply Model.wp_bind.mpr
    refine ⟨untouched, fun last same => same ▸ untouched, ?_⟩
    rintro reply last ⟨rfl, rfl | ⟨raised, rfl⟩⟩
    · refine ⟨untouched, ?_⟩
      apply Model.wp_then (settlePending_spec short rfl start kept) fun _ reached => reached
      rintro result last ⟨reached, settled⟩
      match result with
      | .error raised => exact ⟨reached, reached⟩
      | .ok devices =>
        obtain ⟨rfl, fresh⟩ := settled devices rfl
        have stage := fresh ▸ reached.1
        have found := @existing_own commission.deviceId last.devices
        dsimp only
        split
        · rename_i absent
          have none_left : own commission.deviceId last.devices = [] := by
            rwa [absent, eq_comm, List.head?_eq_none_iff] at found
          have new : before = [] := by
            rw [none_left] at stage
            cases stage
            rfl
          exact deliverRecorded_spec accepted (fun present => absurd new present) reached fresh none_left
            (Nat.zero_le 1)
        · rename_i previous present
          split
          · rename_i reprovision
            rw [← present, found]
            exact deliverRecorded_spec accepted (fun _ => reprovision) reached fresh rfl (stage.length_le short)
          · exact ⟨reached, reached⟩
    · exact ⟨untouched, untouched, untouched⟩

end Runs

end ApexiDevices.ProvisionDevice
