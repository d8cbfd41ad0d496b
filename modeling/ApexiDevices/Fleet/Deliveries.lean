import ApexiDevices.Fleet.Inventory

set_option autoImplicit false

/-!
# Any sequence of commissionings

The lock puts the runs one after the other. Each ends or dies, and the next
one starts from the file it left.
-/

namespace ApexiDevices.ProvisionDevice

open Device

structure Attempt extends Commission where
  before : Option Inventory
  after : Option Inventory
  delivery : Delivery

inductive History (initial : Option Inventory) : List Attempt → Option Inventory → Prop
  | start : History initial [] initial
  | finished {attempts : List Attempt} {attempt : Attempt} {result : Except Raised Unit}
      (earlier : History initial attempts attempt.before)
      (run : site.Runs attempt.run ⟨attempt.before, .none⟩ result ⟨attempt.after, attempt.delivery⟩) :
      History initial (attempts ++ [attempt]) attempt.after
  | died {attempts : List Attempt} {attempt : Attempt} (earlier : History initial attempts attempt.before)
      (cut : site.Cut attempt.run ⟨attempt.before, .none⟩ ⟨attempt.after, attempt.delivery⟩) :
      History initial (attempts ++ [attempt]) attempt.after

def UniqueIds (file : Option Inventory) : Prop := ∀ observed, (own observed (stored file)).length ≤ 1

/-- A new entry: its id, the three public members of its bundle, and how far delivery came. -/
def Commission.Writes (commission : Commission) (entry : Members) : Prop :=
  ∃ metadata status, commission.validated = .ok metadata ∧
    status ∈ ["pending", "indeterminate", "committed"] ∧
      entry = safeEntry commission.deviceId metadata status

def Attempt.Reached (attempt : Attempt) : Site → Prop :=
  attempt.At (own attempt.deviceId (stored attempt.before)) (others attempt.deviceId (stored attempt.before))

structure Attempt.Sound (attempt : Attempt) : Prop where
  guarded : attempt.delivery ≠ .none → own attempt.deviceId (stored attempt.before) ≠ [] →
    attempt.reprovision = true
  recorded : attempt.delivery ≠ .none →
    (∀ message, attempt.delivery ≠ .ended (.error (.provisioningError message))) →
      ∃ entry, attempt.Writes entry ∧ own attempt.deviceId (stored attempt.after) = [entry]
  confirmed : ∀ entry ∈ stored attempt.after, holds entry "status" "committed" = true →
    entry ∈ stored attempt.before ∨ attempt.delivery = .ended (.ok ())
  untouched : others attempt.deviceId (stored attempt.after) = others attempt.deviceId (stored attempt.before)

def Known (initial : Option Inventory) (attempts : List Attempt) (entry : Members) : Prop :=
  (∃ first ∈ stored initial, entry = first ∨ entry = setStatus first "indeterminate") ∨
    ∃ attempt ∈ attempts, attempt.Writes entry

section Stage

variable {commission : Commission} {before entries : List Members} {delivery : Delivery}

theorem Commission.Stage.guarded (stage : commission.Stage before delivery entries)
    (invoked : delivery ≠ .none) (present : before ≠ []) : commission.reprovision = true := by
  cases stage with
  | untouched => exact absurd rfl invoked
  | settled => exact absurd rfl invoked
  | pending allowed => exact allowed present
  | indeterminate allowed => exact allowed present
  | committed allowed => exact allowed present
  | withdrawn allowed => exact allowed present

theorem Commission.Stage.recorded (stage : commission.Stage before delivery entries)
    (invoked : delivery ≠ .none)
    (accepted : ∀ message, delivery ≠ .ended (.error (.provisioningError message))) :
    ∃ entry, commission.Writes entry ∧ entries = [entry] := by
  cases stage with
  | untouched => exact absurd rfl invoked
  | settled => exact absurd rfl invoked
  | pending _ valid => exact ⟨_, ⟨_, "pending", valid, by simp, rfl⟩, rfl⟩
  | indeterminate _ valid => exact ⟨_, ⟨_, "indeterminate", valid, by simp, rfl⟩, rfl⟩
  | committed _ valid => exact ⟨_, ⟨_, "committed", valid, by simp, rfl⟩, rfl⟩
  | withdrawn => exact absurd rfl (accepted _)

theorem Commission.Stage.known (stage : commission.Stage before delivery entries) {entry : Members}
    (member : entry ∈ entries) :
    entry ∈ before ∨ (∃ first ∈ before, entry = setStatus first "indeterminate") ∨
      commission.Writes entry := by
  induction stage with
  | untouched => exact .inl member
  | settled alone => exact .inr (.inl ⟨_, by simp [alone], List.mem_singleton.mp member⟩)
  | pending _ valid => exact .inr (.inr ⟨_, "pending", valid, by simp, List.mem_singleton.mp member⟩)
  | indeterminate _ valid =>
    exact .inr (.inr ⟨_, "indeterminate", valid, by simp, List.mem_singleton.mp member⟩)
  | committed _ valid => exact .inr (.inr ⟨_, "committed", valid, by simp, List.mem_singleton.mp member⟩)
  | withdrawn _ _ ih => exact ih member

theorem Commission.Stage.confirmed (stage : commission.Stage before delivery entries) {entry : Members}
    (member : entry ∈ entries) (committed : holds entry "status" "committed" = true) :
    entry ∈ before ∨ delivery = .ended (.ok ()) := by
  rw [holds_iff] at committed
  induction stage with
  | untouched => exact .inl member
  | committed => exact .inr rfl
  | withdrawn _ _ ih => exact .inl ((ih member).resolve_right fun impossible => by cases impossible)
  | settled =>
    rw [List.mem_singleton.mp member, setStatus_status] at committed
    exact absurd committed (by simp)
  | pending | indeterminate =>
    rw [List.mem_singleton.mp member] at committed
    exact absurd committed (by simp [safeEntry, Members.get, Members.find?])

end Stage

section Attempts

variable {initial file : Option Inventory} {attempts : List Attempt} {attempt : Attempt}

theorem own_others {observed other : String} (different : other ≠ observed) (devices : List Members) :
    own other (others observed devices) = own other devices := by
  unfold own others
  rw [List.filter_filter]
  apply List.filter_congr
  intro entry _
  by_cases mine : holds entry "device_id" other = true
  · have notObserved : holds entry "device_id" observed = false := by
      rw [Bool.eq_false_iff, Ne, holds_iff, holds_iff.mp mine]
      simpa using different
    simp [mine, notObserved]
  · simp [mine]

theorem run_reaches (unique : UniqueIds attempt.before) :
    site.wp attempt.run (fun _ => attempt.Reached) attempt.Reached ⟨attempt.before, .none⟩ :=
  run_spec rfl (unique attempt.deviceId) rfl

variable (at_last : attempt.Reached ⟨attempt.after, attempt.delivery⟩)

include at_last

theorem unique_after (unique : UniqueIds attempt.before) : UniqueIds attempt.after := by
  intro observed
  by_cases mine : observed = attempt.deviceId
  · subst mine
    exact at_last.1.length_le (unique _)
  · have same := unique observed
    rw [← own_others mine] at same ⊢
    rwa [show others attempt.deviceId (stored attempt.after) = _ from at_last.2]

theorem sound_after : attempt.Sound where
  guarded := at_last.1.guarded
  recorded := at_last.1.recorded
  confirmed entry member committed := by
    rcases @mem_own_or_others attempt.deviceId _ _ member with mine | other
    · exact (at_last.1.confirmed mine committed).imp_left fun earlier => (List.mem_filter.mp earlier).1
    · rw [show others attempt.deviceId (stored attempt.after) = _ from at_last.2] at other
      exact .inl (List.mem_filter.mp other).1
  untouched := at_last.2

theorem known_after (known : ∀ entry ∈ stored attempt.before, Known initial attempts entry) :
    ∀ entry ∈ stored attempt.after, Known initial (attempts ++ [attempt]) entry := by
  have earlier (entry : Members) (member : entry ∈ stored attempt.before) :
      Known initial (attempts ++ [attempt]) entry := by
    refine (known entry member).imp_right ?_
    rintro ⟨writer, listed, writes⟩
    exact ⟨writer, List.mem_append_left _ listed, writes⟩
  intro entry member
  rcases @mem_own_or_others attempt.deviceId _ _ member with mine | other
  · rcases at_last.1.known mine with old | ⟨pending, old, rfl⟩ | new
    · exact earlier entry (List.mem_filter.mp old).1
    · rcases earlier pending (List.mem_filter.mp old).1 with ⟨first, present, rfl | rfl⟩ | ⟨writer, listed, writes⟩
      · exact .inl ⟨_, present, .inr rfl⟩
      · exact .inl ⟨_, present, .inr (by simp [setStatus])⟩
      · obtain ⟨metadata, status, valid, -, rfl⟩ := writes
        exact .inr ⟨writer, listed, metadata, "indeterminate", valid, by simp, rfl⟩
    · exact .inr ⟨attempt, by simp, new⟩
  · rw [show others attempt.deviceId (stored attempt.after) = _ from at_last.2] at other
    exact earlier entry (List.mem_filter.mp other).1

end Attempts

def shown (metadata : Members) : Json × Json × Json :=
  (metadata.get "friendly_name", metadata.get "hardware_revision", metadata.get "provisioned_at")

theorem safeEntry_shown {metadata other : Members} (same : shown metadata = shown other)
    (observed status : String) : safeEntry observed metadata status = safeEntry observed other status := by
  simp only [shown, Prod.mk.injEq] at same
  obtain ⟨name, revision, time⟩ := same
  rw [safeEntry, name, revision, time, safeEntry]

/-- A run is the same program for any two valid bundles that show the same. -/
theorem commissionIdentity_shown {now now' observed : String} {bundle bundle' : Json} {metadata metadata' : Members}
    (accepted : validateBundle now bundle observed = .ok metadata)
    (accepted' : validateBundle now' bundle' observed = .ok metadata') (same : shown metadata = shown metadata')
    (reprovision : Bool) (deliver : Prog Fleet (Except Raised Unit)) :
    commissionIdentity now observed bundle reprovision (fun _ => deliver) =
      commissionIdentity now' observed bundle' reprovision (fun _ => deliver) := by
  have delivered (inventory : Inventory) (devices : List Members) (previous : Option Members) :
      deliverRecorded observed inventory devices previous metadata (fun _ => deliver) =
        deliverRecorded observed inventory devices previous metadata' (fun _ => deliver) := by
    unfold deliverRecorded
    rw [safeEntry_shown same]
  unfold commissionIdentity
  rw [accepted, accepted']
  simp only [delivered]

theorem history_sound {initial file : Option Inventory} {attempts : List Attempt} (unique : UniqueIds initial)
    (history : History initial attempts file) :
    UniqueIds file ∧ (∀ attempt ∈ attempts, attempt.Sound) ∧ ∀ entry ∈ stored file, Known initial attempts entry := by
  have step {attempts : List Attempt} {attempt : Attempt}
      (kept : UniqueIds attempt.before ∧ (∀ attempt ∈ attempts, attempt.Sound) ∧
        ∀ entry ∈ stored attempt.before, Known initial attempts entry)
      (at_last : attempt.Reached ⟨attempt.after, attempt.delivery⟩) :
      UniqueIds attempt.after ∧ (∀ other ∈ attempts ++ [attempt], other.Sound) ∧
        ∀ entry ∈ stored attempt.after, Known initial (attempts ++ [attempt]) entry := by
    refine ⟨unique_after at_last kept.1, ?_, known_after at_last kept.2.2⟩
    intro other listed
    rcases List.mem_append.mp listed with earlier | last
    · exact kept.2.1 other earlier
    · rw [List.mem_singleton.mp last]
      exact sound_after at_last
  induction history with
  | start =>
    refine ⟨unique, fun _ impossible => absurd impossible (by simp), ?_⟩
    exact fun entry member => .inl ⟨entry, member, .inl rfl⟩
  | finished earlier run ih =>
    have reached := Model.wp_runs (run_reaches ih.1) run
    exact step ih reached
  | died earlier cut ih => exact step ih (Model.wp_cut (run_reaches ih.1) cut)

/-- The inventory never hides a delivery whose outcome is not known to be a refusal. -/
theorem deliveries_on_record {initial file : Option Inventory} {attempts : List Attempt}
    (unique : UniqueIds initial) (history : History initial attempts file) :
    UniqueIds file ∧ (∀ attempt ∈ attempts, attempt.Sound) ∧
      (∀ entry ∈ stored file, Known initial attempts entry) ∧
      ∀ (now now' observed : String) (bundle bundle' : Json) (metadata metadata' : Members),
        validateBundle now bundle observed = .ok metadata →
        validateBundle now' bundle' observed = .ok metadata' → shown metadata = shown metadata' →
        ∀ (reprovision : Bool) (deliver : Prog Fleet (Except Raised Unit)),
          commissionIdentity now observed bundle reprovision (fun _ => deliver) =
            commissionIdentity now' observed bundle' reprovision (fun _ => deliver) := by
  obtain ⟨kept, sound, known⟩ := history_sound unique history
  refine ⟨kept, sound, known, ?_⟩
  intro now now' observed bundle bundle' metadata metadata' accepted accepted' same
  exact commissionIdentity_shown accepted accepted' same

section Example

def answer (state : Site) : (op : Fleet.Op) → Fleet.Reply op × Site
  | .read => (.ok state.file, state)
  | .write inventory => (.ok (), { state with file := some inventory })
  | .deliver _ => (.ok (), { state with delivery := .ended (.ok ()) })

def benchBundle : Json := .object [("friendly_name", .string "bench"), ("hardware_revision", .string "r1"),
  ("provisioned_at", .string "2026-09-05T00:00:00+00:00"), ("ota_password", .string "correct horse battery"),
  ("wifi", .object [("ssid", .string "shop"), ("password", .string "12345678")]),
  ("upload", .object [("protocol", .string "mqtt"), ("host", .string "broker.example"), ("port", .int 8883),
    ("mqtt_username", .string "mda-aabbccddeeff"), ("mqtt_password", .string "pw")])]

def lost : Raised := .provisioningIndeterminate "no acknowledgement"

/-- The device does not answer: it may have taken the bundle or not. -/
def silent (state : Site) : (op : Fleet.Op) → Fleet.Reply op × Site
  | .deliver _ => (.error lost, { state with delivery := .ended (.error lost) })
  | op => answer state op

def benchCommission (reprovision : Bool) : Commission := ⟨"2026-09-05", "mda-aabbccddeeff", benchBundle, reprovision⟩

def lostSite : Site := ((benchCommission false).run.exec silent ⟨none, .none⟩).2

def lostAttempt : Attempt := { benchCommission false with
  before := none
  after := lostSite.file
  delivery := lostSite.delivery }

def benchSite : Site := ((benchCommission true).run.exec answer ⟨lostSite.file, .none⟩).2

def benchAttempt : Attempt := { benchCommission true with
  before := lostSite.file
  after := benchSite.file
  delivery := benchSite.delivery }

/-- The delivery that was lost is repeated with `--reprovision`. -/
theorem bench_history : History none [lostAttempt, benchAttempt] benchAttempt.after := by
  have answers (state : Site) (op : Fleet.Op) : site.step state op (answer state op).1 (answer state op).2 := by
    cases op with
    | read => exact ⟨rfl, .inl rfl⟩
    | write inventory => exact .inl ⟨rfl, rfl⟩
    | deliver metadata => rfl
  have silences (state : Site) (op : Fleet.Op) : site.step state op (silent state op).1 (silent state op).2 := by
    cases op with
    | read => exact answers state .read
    | write inventory => exact answers state (.write inventory)
    | deliver metadata => rfl
  have first := Model.runs_of_handler silences (benchCommission false).run ⟨none, .none⟩
  have second := Model.runs_of_handler answers (benchCommission true).run ⟨lostSite.file, .none⟩
  exact @History.finished none [lostAttempt] benchAttempt _ (@History.finished none [] lostAttempt _ .start first) second

theorem deliveries_on_record_bench :
    (lostAttempt.delivery = .ended (.error lost) ∧ (stored lostAttempt.after).map (holds · "status" "indeterminate") = [true]) ∧
    (benchAttempt.delivery = .ended (.ok ()) ∧ (stored benchAttempt.after).map (holds · "status" "committed") = [true]) ∧
      lostAttempt.Sound ∧ benchAttempt.Sound ∧ UniqueIds benchAttempt.after := by
  have recorded := deliveries_on_record (fun _ => by simp [stored, own, emptyInventory, Inventory.entries]) bench_history
  refine ⟨⟨by with_unfolding_all rfl, by with_unfolding_all rfl⟩, ⟨by with_unfolding_all rfl, by with_unfolding_all rfl⟩,
    recorded.2.1 lostAttempt (by simp), recorded.2.1 benchAttempt (by simp), recorded.1⟩

end Example

end ApexiDevices.ProvisionDevice
