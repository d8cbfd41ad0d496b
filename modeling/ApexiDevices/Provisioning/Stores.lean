import ApexiDevices.Provisioning.DeviceProvisioning

set_option autoImplicit false

/-!
# The stores of a provisioned device

What a command leaves in the NVS when it is accepted, and what `begin` makes of
it.
-/

namespace ApexiDevices

open Device ProvisioningPolicy

namespace Slots

variable {L : Layout} [DecidableEq L.Key]

def written (slots : Slots L) (entries : List ((key : L.Key) × L.Value key)) : Slots L :=
  entries.foldl (fun slots entry => slots.put entry.1 entry.2) slots

@[simp] theorem written_present (slots : Slots L) (entries : List ((key : L.Key) × L.Value key)) :
    (slots.written entries).present = slots.present := by
  induction entries generalizing slots with
  | nil => rfl
  | cons entry rest ih => exact ih (slots.put entry.1 entry.2)

theorem written_other (slots : Slots L) {entries : List ((key : L.Key) × L.Value key)} {key : L.Key}
    (other : ∀ entry ∈ entries, entry.1 ≠ key) : (slots.written entries).value key = slots.value key := by
  induction entries generalizing slots with
  | nil => rfl
  | cons entry rest ih =>
    have later := ih (slots.put entry.1 entry.2) fun entry member => other entry (List.mem_cons_of_mem _ member)
    exact later.trans (slots.value_put_ne _ (other entry List.mem_cons_self).symm)

theorem written_same (slots : Slots L) {entries : List ((key : L.Key) × L.Value key)}
    (distinct : (entries.map Sigma.fst).Nodup) {entry : (key : L.Key) × L.Value key} (member : entry ∈ entries) :
    (slots.written entries).value entry.1 = some entry.2 := by
  induction entries generalizing slots with
  | nil => cases member
  | cons first rest ih =>
    rw [List.map_cons, List.nodup_cons] at distinct
    rcases List.mem_cons.mp member with rfl | later
    · have last := (slots.put entry.1 entry.2).written_other fun other among same =>
        distinct.1 (List.mem_map.mpr ⟨other, among, same⟩)
      exact last.trans (slots.value_put_same _ _)
    · exact ih (slots.put first.1 first.2) distinct.2 later

theorem wp_clear {slots : Slots L} {post : Bool → Slots L → Prop} {crash : Slots L → Prop}
    (partly : ∀ kept, crash (slots.keep kept) ∧ post false (slots.keep kept)) (before : crash slots)
    (cleared : post true (slots.keep fun _ => false)) :
    device.wp Preferences.clear post crash slots := by
  refine ⟨before, ?_, ?_⟩
  · rintro last ⟨kept, rfl⟩
    exact (partly kept).1
  · rintro answer last (⟨rfl, rfl⟩ | ⟨rfl, kept, rfl⟩)
    · exact ⟨(partly _).1, cleared⟩
    · exact partly kept

theorem observes_openReadOnly (slots : Slots L) :
    device.Observes slots (Preferences.openNamespace true) slots.present :=
  wp_openReadOnly rfl ⟨rfl, rfl⟩

end Slots

namespace DeviceProvisioning

abbrev ownerNvs : Model (Preferences ownerLayout) (Slots ownerLayout) := Slots.device

abbrev factoryNvs : Model (Preferences factoryLayout) (Slots factoryLayout) := Slots.device

structure Cells where
  ownerSlots : Slots ownerLayout := {}
  factorySlots : Slots factoryLayout := {}
  prepared : Bool := false

namespace Cells

/-- The callback may do anything to the record of the owner and to the stores that are not modelled here. -/
def device : Model Serial Cells where
  step
    | cells, .inl (.inl op), reply, last =>
      ∃ part, ownerNvs.step cells.ownerSlots op reply part ∧ last = { cells with ownerSlots := part }
    | cells, .inl (.inr op), reply, last =>
      ∃ part, factoryNvs.step cells.factorySlots op reply part ∧ last = { cells with factorySlots := part }
    | cells, .inr (), _, last => ∃ part, last = { cells with ownerSlots := part, prepared := true }
  torn
    | cells, .inl (.inl op), last => ∃ part, ownerNvs.torn cells.ownerSlots op part ∧ last = { cells with ownerSlots := part }
    | cells, .inl (.inr op), last =>
      ∃ part, factoryNvs.torn cells.factorySlots op part ∧ last = { cells with factorySlots := part }
    | cells, .inr (), last => ∃ part, last = { cells with ownerSlots := part, prepared := true }

section Rules

variable {A : Type} {cells : Cells} {post : A → Cells → Prop} {crash : Cells → Prop}

theorem wp_owner {program : Prog (Preferences ownerLayout) A}
    (h : ownerNvs.wp program (fun value part => post value { cells with ownerSlots := part })
      (fun part => crash { cells with ownerSlots := part }) cells.ownerSlots) :
    device.wp (owner program) post crash cells := by
  have part : device.left.left =
      ownerNvs.component ownerSlots fun cells part => { cells with ownerSlots := part } := rfl
  rw [owner, Model.wp_left, Model.wp_left, part]
  apply Model.wp_component
  · exact fun _ _ => rfl
  · exact fun _ _ _ => rfl
  · exact fun _ => rfl
  · exact h

theorem wp_factory {program : Prog (Preferences factoryLayout) A}
    (h : factoryNvs.wp program (fun value part => post value { cells with factorySlots := part })
      (fun part => crash { cells with factorySlots := part }) cells.factorySlots) :
    device.wp (factory program) post crash cells := by
  have part : device.left.right =
      factoryNvs.component factorySlots fun cells part => { cells with factorySlots := part } := rfl
  rw [factory, Model.wp_left, Model.wp_right, part]
  apply Model.wp_component
  · exact fun _ _ => rfl
  · exact fun _ _ _ => rfl
  · exact fun _ => rfl
  · exact h

theorem observes_owner {program : Prog (Preferences ownerLayout) A} {value : A}
    (observes : ownerNvs.Observes cells.ownerSlots program value) : device.Observes cells (owner program) value := by
  apply wp_owner
  refine Model.wp_mono observes ?_ ?_
  · rintro answer last ⟨rfl, rfl⟩
    exact ⟨rfl, rfl⟩
  · rintro last rfl
    rfl

theorem observes_factory {program : Prog (Preferences factoryLayout) A} {value : A}
    (observes : factoryNvs.Observes cells.factorySlots program value) : device.Observes cells (factory program) value := by
  apply wp_factory
  refine Model.wp_mono observes ?_ ?_
  · rintro answer last ⟨rfl, rfl⟩
    exact ⟨rfl, rfl⟩
  · rintro last rfl
    rfl

end Rules

end Cells

open Cells

/-- The candidate as far as it is stored: without the credentials of the other protocol. -/
def kept (candidate : Candidate) : Candidate :=
  match candidate.protocol with
  | .mqtt =>
    { candidate with
      cloudflareClientId := .empty, cloudflareClientSecret := .empty, appDeviceToken := .empty
      appTokenSubject := .empty }
  | .https => { candidate with mqttUsername := .empty, mqttPassword := .empty }

structure Holds (candidate : Candidate) (remote : Bool) (slots : Slots ownerLayout) : Prop where
  present : slots.present = true
  entries : ∀ entry ∈ entries candidate remote, slots.value entry.1 = some entry.2
  others : ∀ key, (∀ entry ∈ DeviceProvisioning.entries candidate remote, entry.1 ≠ key) → slots.value key = none

theorem entries_distinct (candidate : Candidate) (remote : Bool) :
    ((entries candidate remote).map Sigma.fst).Nodup := by
  have keys : (entries candidate remote).map Sigma.fst =
      [.deviceId, .name, .wifiSsid, .wifiPass, .otaPass, .upHost, .upPort, .protocol] ++
        (match candidate.protocol with
          | .mqtt => [.mqttUser, .mqttPass]
          | .https => [.cfId, .cfSecret, .appToken, .appSubject]) ++ [.provAt, .remoteMgmt, .ready] := by
    unfold entries
    cases candidate.protocol <;> rfl
  rw [keys]
  cases candidate.protocol <;> decide

theorem written_holds {slots : Slots ownerLayout} (present : slots.present = true) (candidate : Candidate)
    (remote : Bool) : Holds candidate remote ((slots.keep fun _ => false).written (entries candidate remote)) where
  present := (@Slots.written_present ownerLayout _ _ _).trans present
  entries _ member := Slots.written_same _ (entries_distinct candidate remote) member
  others _ other := Slots.written_other _ other

theorem putAll_wp (saved : Bool) (rest : List Entry) (slots : Slots ownerLayout) :
    ownerNvs.wp (putAll saved rest) (fun all last => all = true → saved = true ∧ last = slots.written rest)
      (fun _ => True) slots := by
  induction rest generalizing saved slots with
  | nil => exact ⟨trivial, fun all => ⟨all, rfl⟩⟩
  | cons entry rest ih =>
    rw [putAll]
    refine Model.wp_bind.mpr (@Slots.wp_putNext ownerLayout _ _ _ _ _ _ _ trivial ?_ fun good => ⟨trivial, ?_⟩)
    · refine Model.wp_mono (ih false slots) ?_ fun _ same => same
      intro all last good finished
      exact absurd (good finished).1 (by decide)
    · refine Model.wp_mono (ih _ _) ?_ fun _ same => same
      intro all last later finished
      exact ⟨good, (later finished).2⟩

variable {self : DeviceProvisioning} {candidate : Candidate} {remote : Bool} {cells : Cells}

theorem persist_wp (slots : Slots ownerLayout) :
    ownerNvs.wp (self.persist candidate remote) (fun answer last => answer.1 = true → Holds candidate remote last)
      (fun _ => True) slots := by
  refine Model.wp_bind.mpr (Slots.wp_open trivial trivial ?_ ⟨trivial, nofun⟩)
  have clears : ownerNvs.wp Preferences.clear (fun cleared last => cleared = true →
      last = ({ slots with present := true } : Slots ownerLayout).keep fun _ => false) (fun _ => True)
      { slots with present := true } :=
    Slots.wp_clear (fun _ => ⟨trivial, fun refused => by cases refused⟩) trivial fun _ => rfl
  refine Model.wp_then clears (fun _ same => same) ?_
  intro cleared middle whole
  refine Model.wp_then (putAll_wp cleared _ middle) (fun _ same => same) ?_
  intro saved last every
  cases saved with
  | false =>
    have cleaned : ownerNvs.wp rollback (fun _ _ => True) (fun _ => True) last := by
      refine Model.wp_bind.mpr (Slots.wp_open trivial trivial ?_ ⟨trivial, trivial⟩)
      exact Model.wp_bind.mpr (Slots.wp_clear (fun _ => ⟨trivial, trivial, trivial⟩) trivial ⟨trivial, trivial⟩)
    exact Model.wp_then cleaned (fun _ same => same) fun _ _ _ => ⟨trivial, nofun⟩
  | true =>
    obtain ⟨rfl, rfl⟩ := every rfl
    refine ⟨trivial, fun _ => ?_⟩
    rw [whole rfl]
    exact written_holds rfl candidate remote

theorem observes_getText {L : Layout} [DecidableEq L.Key] {slots : Slots L} (key : L.Key) (absent : L.Value key)
    (text : L.Value key → CText) :
    Slots.device.Observes slots (getText key absent text) (text ((slots.value key).getD absent)) :=
  (Slots.observes_get key absent).then ⟨rfl, rfl, rfl⟩

/-- What `begin` has read before its last check. -/
def restored (self : DeviceProvisioning) (candidate : Candidate) (remote : Bool) : DeviceProvisioning :=
  { self with
    friendlyName := candidate.friendlyName
    wifiSsid := candidate.wifiSsid
    wifiPassword := candidate.wifiPassword
    otaPassword := candidate.otaPassword
    uploadHost := candidate.uploadHost
    mqttUsername := candidate.mqttUsername
    mqttPassword := candidate.mqttPassword
    cloudflareClientId := candidate.cloudflareClientId
    cloudflareClientSecret := candidate.cloudflareClientSecret
    appDeviceToken := candidate.appDeviceToken
    appTokenSubject := candidate.appTokenSubject
    provisionedAt := candidate.provisionedAt
    remoteManagementEnabled := remote
    upload := { self.upload with mqttPort := candidate.uploadPort, protocol := candidate.protocol }
    status := "provisioned" }

theorem readOwner_observes {slots : Slots ownerLayout} (holds : Holds candidate remote slots) :
    ownerNvs.Observes slots self.readOwner
      ((kept candidate).protocol.byte, self.restored (kept candidate) remote) := by
  obtain ⟨-, written, others⟩ := holds
  unfold readOwner
  refine (observes_getText (L := ownerLayout) .name _ _).then ?_
  refine (observes_getText (L := ownerLayout) .wifiSsid _ _).then ?_
  refine (observes_getText (L := ownerLayout) .wifiPass _ _).then ?_
  refine (observes_getText (L := ownerLayout) .otaPass _ _).then ?_
  refine (observes_getText (L := ownerLayout) .upHost _ _).then ?_
  refine (Slots.observes_get (L := ownerLayout) .upPort _).then ?_
  refine (Slots.observes_get (L := ownerLayout) .protocol _).then ?_
  refine (observes_getText (L := ownerLayout) .mqttUser _ _).then ?_
  refine (observes_getText (L := ownerLayout) .mqttPass _ _).then ?_
  refine (observes_getText (L := ownerLayout) .cfId _ _).then ?_
  refine (observes_getText (L := ownerLayout) .cfSecret _ _).then ?_
  refine (observes_getText (L := ownerLayout) .appToken _ _).then ?_
  refine (observes_getText (L := ownerLayout) .appSubject _ _).then ?_
  refine (observes_getText (L := ownerLayout) .provAt _ _).then ?_
  refine (Slots.observes_get (L := ownerLayout) .remoteMgmt _).then ?_
  refine ⟨rfl, ?_, rfl⟩
  have blank : CText.literal "" = .empty := rfl
  -- the keys of the other protocol hold nothing, so their defaults are read
  cases protocol : candidate.protocol with
  | mqtt =>
    have absent (key : OwnerKey) (other : key = .cfId ∨ key = .cfSecret ∨ key = .appToken ∨ key = .appSubject) :
        slots.value key = none := by
      apply others
      simp only [entries, protocol, List.cons_append, List.nil_append, List.forall_mem_cons]
      rcases other with rfl | rfl | rfl | rfl <;> simp
    simp only [entries, protocol, List.cons_append, List.nil_append, List.forall_mem_cons] at written
    obtain ⟨-, name, ssid, wifi, ota, host, port, byte, user, password, time, remote, -⟩ := written
    simp only [name, ssid, wifi, ota, host, port, byte, user, password, time, remote, absent, Option.getD_some,
      Option.getD_none, CText.literal_string, blank, kept, protocol, restored, true_or, or_true]
    rfl
  | https =>
    have absent (key : OwnerKey) (other : key = .mqttUser ∨ key = .mqttPass) : slots.value key = none := by
      apply others
      simp only [entries, protocol, List.cons_append, List.nil_append, List.forall_mem_cons]
      rcases other with rfl | rfl <;> simp
    simp only [entries, protocol, List.cons_append, List.nil_append, List.forall_mem_cons] at written
    obtain ⟨-, name, ssid, wifi, ota, host, port, byte, id, secret, token, subject, time, remote, -⟩ := written
    simp only [name, ssid, wifi, ota, host, port, byte, id, secret, token, subject, time, remote, absent,
      Option.getD_some, Option.getD_none, CText.literal_string, blank, kept, protocol, restored, true_or, or_true]
    rfl

theorem readFactory_observes {slots : Slots factoryLayout} (present : slots.present = true) :
    factoryNvs.Observes slots self.readFactory
      { self with hardwareRevision := .literal ((slots.value .hwRev).getD "unknown") } := by
  have opened := @Slots.observes_openReadOnly factoryLayout _ slots
  rw [present] at opened
  refine opened.then ?_
  exact (observes_getText (L := factoryLayout) .hwRev _ _).then ⟨rfl, rfl, rfl⟩

structure Stored (candidate : Candidate) (remote : Bool) (cells : Cells) : Prop where
  holds : Holds candidate remote cells.ownerSlots
  present : cells.factorySlots.present = true
  revision : .literal ((cells.factorySlots.value .hwRev).getD "unknown") = candidate.hardwareRevision

def provisionedWith (wifiDefaults : WifiConfig) (otaDefaults : OtaConfig) (uploadDefaults : AppConfig.UploadConfig)
    (candidate : Candidate) (remote : Bool) : DeviceProvisioning :=
  bindConfigs
    { restored { initial candidate.expectedDeviceId wifiDefaults otaDefaults uploadDefaults with provisioned := true }
        (kept candidate) remote with
      hardwareRevision := candidate.hardwareRevision }

theorem validate_kept (candidate : Candidate) (deviceId : CText) :
    validate (kept candidate) deviceId = validate candidate deviceId := by
  obtain ⟨id, name, ssid, wifi, ota, protocol, host, port, user, password, cf, secret, token, subject, revision, time⟩ :=
    candidate
  cases protocol <;> rfl

theorem checked_valid (protocol : AppConfig.Protocol) (valid : validate self.stored self.deviceId = .ok ()) :
    self.checked protocol.byte = (true, self.bindConfigs) := by
  have byte : ¬protocol.byte > 1 := by cases protocol <;> decide
  rw [checked, if_neg byte, valid]

theorem begin_observes (wifiDefaults : WifiConfig) (otaDefaults : OtaConfig) (uploadDefaults : AppConfig.UploadConfig)
    {hardwareId : UInt64} (identity : candidate.expectedDeviceId = deviceIdFromHardwareId hardwareId)
    (valid : validate candidate candidate.expectedDeviceId = .ok ()) (stored : Stored candidate remote cells) :
    device.Observes cells («begin» hardwareId wifiDefaults otaDefaults uploadDefaults)
      (true, provisionedWith wifiDefaults otaDefaults uploadDefaults candidate remote) := by
  obtain ⟨holds, present, revision⟩ := stored
  have opened := @Slots.observes_openReadOnly ownerLayout _ cells.ownerSlots
  rw [holds.present] at opened
  have ready : cells.ownerSlots.value .ready = some true :=
    holds.entries ⟨.ready, true⟩ (by simp [entries])
  have recorded : cells.ownerSlots.value .deviceId = some candidate.expectedDeviceId.string :=
    holds.entries ⟨.deviceId, candidate.expectedDeviceId.string⟩ (by simp [entries])
  refine (observes_owner opened).then ?_
  refine (observes_owner (Slots.observes_get (L := ownerLayout) .ready false)).then ?_
  rw [ready]
  refine (observes_owner (observes_getText (L := ownerLayout) .deviceId "" .literal)).then ?_
  rw [recorded, Option.getD_some, CText.literal_string, if_neg (not_not_intro identity)]
  refine (observes_owner (readOwner_observes holds)).then ?_
  refine (observes_factory (readFactory_observes present)).then ?_
  refine ⟨rfl, ?_, rfl⟩
  rw [revision, ← identity]
  apply checked_valid
  refine Eq.trans (congrArg (fun candidate => validate candidate _) ?_) ((validate_kept candidate _).trans valid)
  obtain ⟨id, name, ssid, wifi, ota, protocol, host, port, user, password, cf, secret, token, subject, revision, time⟩ :=
    candidate
  cases protocol <;> rfl

structure Proceeds (provisioning : DeviceProvisioning) (library : JsonLibrary) (line : Bytes) (cells : Cells)
    (candidate : Candidate) (remote : Bool) : Prop where
  parsed : parsed library line = .ok (candidate, remote)
  valid : validate candidate provisioning.deviceId = .ok ()
  agrees : CText.literal ((cells.factorySlots.value .hwRev).getD "") = .empty ∨
    CText.literal ((cells.factorySlots.value .hwRev).getD "") = candidate.hardwareRevision

structure Unchanged (before after : Cells) : Prop where
  owner : after.ownerSlots = before.ownerSlots
  factory : after.factorySlots.stored = before.factorySlots.stored
  prepared : after.prepared = before.prepared

variable {library : JsonLibrary} {line : Bytes} {callback : Bool}

structure Agrees (existing revision : CText) (slots : Slots factoryLayout) : Prop where
  present : slots.present = true
  read : existing = .literal ((slots.value .hwRev).getD "")
  agrees : existing = .empty ∨ existing = revision

theorem keepRevision_wp {slots : Slots factoryLayout} {existing revision : CText}
    (agrees : Agrees existing revision slots) :
    factoryNvs.wp (keepRevision existing revision)
      (fun kept last => kept = true →
        last.present = true ∧ CText.literal ((last.value .hwRev).getD "unknown") = revision)
      (fun _ => True) slots := by
  obtain ⟨present, read, same⟩ := agrees
  unfold keepRevision
  by_cases blank : existing = .empty
  · simp only [blank, CText.empty, List.isEmpty_nil, if_true]
    refine Model.wp_bind.mpr (Slots.wp_put (L := factoryLayout) trivial trivial ⟨trivial, fun _ => ⟨present, ?_⟩⟩ ?_)
    · rw [Slots.value_put_same (L := factoryLayout), Option.getD_some, CText.literal_string]
    · exact ⟨trivial, fun kept => absurd kept (by decide)⟩
  · have some : ¬existing.bytes.isEmpty = true := by
      rwa [List.isEmpty_iff, ← CText.eq_empty]
    rw [if_neg some]
    refine ⟨trivial, fun _ => ⟨present, ?_⟩⟩
    rw [← same.resolve_left blank, read]
    cases stored : slots.value .hwRev with
    | none =>
      rw [stored] at read
      exact absurd read blank
    | some value => rfl

theorem changeOwner_wp {existing : CText} (agrees : Agrees existing candidate.hardwareRevision cells.factorySlots) :
    device.wp (self.changeOwner existing candidate remote)
      (fun answer last => answer.1 = true → Stored candidate remote last) (fun _ => True) cells := by
  refine Model.wp_bind.mpr (wp_factory (Model.wp_mono (keepRevision_wp agrees) ?_ fun _ same => same))
  intro kept factory revision
  cases kept with
  | false => exact ⟨trivial, nofun⟩
  | true =>
    obtain ⟨present, same⟩ := revision rfl
    refine wp_owner (Model.wp_mono (persist_wp _) ?_ fun _ same => same)
    exact fun answer owner holds accepted => ⟨holds accepted, present, same⟩

theorem acceptSerialCommand_wp (self : DeviceProvisioning) (library : JsonLibrary) (line : Bytes) (callback : Bool)
    (cells : Cells) :
    device.wp (self.acceptSerialCommand library line callback)
      (fun answer last => (answer.1 = true → ∃ candidate remote, self.Proceeds library line cells candidate remote ∧
          Stored candidate remote last) ∧
        ((∀ candidate remote, ¬self.Proceeds library line cells candidate remote) →
          answer.1 = false ∧ Unchanged cells last))
      (fun _ => True) cells := by
  unfold acceptSerialCommand
  have still : Unchanged cells cells := ⟨rfl, rfl, rfl⟩
  cases command : parsed library line with
  | error error => exact ⟨trivial, nofun, fun _ => ⟨rfl, still⟩⟩
  | ok asked =>
    obtain ⟨candidate, remote⟩ := asked
    dsimp only
    cases validity : validate candidate self.deviceId with
    | error error => exact ⟨trivial, nofun, fun _ => ⟨rfl, still⟩⟩
    | ok _ =>
      dsimp only
      refine Model.wp_bind.mpr (wp_factory (Slots.wp_open trivial trivial ?_ ⟨trivial, nofun, fun _ => ⟨rfl, still⟩⟩))
      refine Model.Observes.then (observes_factory (observes_getText (L := factoryLayout) .hwRev "" .literal)) ?_
      rw [Slots.value_present]
      split
      · exact ⟨trivial, nofun, fun _ => ⟨rfl, rfl, rfl, rfl⟩⟩
      rename_i compatible
      have agrees : CText.literal ((cells.factorySlots.value .hwRev).getD "") = .empty ∨
          CText.literal ((cells.factorySlots.value .hwRev).getD "") = candidate.hardwareRevision := by
        rw [CText.eq_empty, ← List.isEmpty_iff]
        simpa [or_iff_not_imp_left] using compatible
      have proceeds : self.Proceeds library line cells candidate remote := ⟨command, validity, agrees⟩
      -- The checks have passed, so that only what is stored matters.
      have accepts (answer : Bool × DeviceProvisioning) (last : Cells)
          (stored : answer.1 = true → Stored candidate remote last) :
          (answer.1 = true → ∃ candidate remote, self.Proceeds library line cells candidate remote ∧
              Stored candidate remote last) ∧
            ((∀ candidate remote, ¬self.Proceeds library line cells candidate remote) →
              answer.1 = false ∧ Unchanged cells last) :=
        ⟨fun accepted => ⟨candidate, remote, proceeds, stored accepted⟩, fun none => absurd proceeds (none _ _)⟩
      cases callback with
      | false => exact ⟨trivial, accepts _ _ nofun⟩
      | true =>
        refine ⟨trivial, fun _ _ => trivial, ?_⟩
        rintro prepared middle ⟨owner, rfl⟩
        cases prepared with
        | false => exact ⟨trivial, accepts _ _ nofun⟩
        | true => exact Model.wp_mono (changeOwner_wp ⟨rfl, rfl, agrees⟩) accepts fun _ same => same

end DeviceProvisioning

end ApexiDevices
