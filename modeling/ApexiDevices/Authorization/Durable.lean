import ApexiDevices.Authorization.RoundTrip

set_option autoImplicit false

/-!
# The record in NVS and the logger above it

The board keeps the record, the one request slot of the worker and every
`saveRecord` with its answer. A refused save may still have replaced the record.
-/

namespace ApexiDevices.LoggerAuthorization

open Device DeviceAuthorizationPolicy

structure Board where
  record : Option Members := none
  inFlight : Bool := false
  saves : List (Save × Bool) := []

namespace Board

/-- One NVS value replaces the complete record; only a failed write leaves the old one. -/
def Replaced (before after : Board) (record : Members) (written : Bool) : Prop :=
  after.record = some record ∨ written = false ∧ after.record = before.record

def Step (before : Board) : (op : AuthOp) → Network.Reply op → Board → Prop
  | .putRecord record, written, after =>
    Replaced before after record written ∧ after.inFlight = before.inFlight ∧ after.saves = before.saves
  | .saveRecord save, saved, after =>
    Replaced before after save.record saved ∧ after.inFlight = before.inFlight ∧
      after.saves = before.saves ++ [(save, saved)]
  | .getRecord, saved, after => after = before ∧ saved = before.record.map fun record => some (.object record)
  | .submit _, taken, after =>
    if taken then before.inFlight = false ∧ after = { before with inFlight := true } else after = before
  -- Only a request of this owner has a result for it.
  | .result, answer, after => after = before ∧ (answer.isSome = true → before.inFlight = true)
  | .release, _, after => after = { before with inFlight := false }
  | .random, _, after | .connected, _, after | .millis, _, after | .time, _, after | .openStore, _, after
  | .startWorker, _, after | .cancelPending, _, after => after = before

def Torn (before : Board) : AuthOp → Board → Prop
  | .putRecord record, after => after = before ∨ after = { before with record := some record }
  | .saveRecord save, after => after = before ∨ after = { before with record := some save.record }
  | _, after => after = before

def device : Model Network Board where
  step := Step
  torn := Torn

end Board

/-- A save of this hardware; the challenge is there in both parts or in none. -/
structure Savable (mac : UInt64) (save : Save) : Prop extends Coherent save where
  hardware : save.self.hardwareId = DeviceAuthorizationPolicy.hardwareId mac
  origin : save.self.origin ≠ missing
  challenge : (save.self.authorizationId = .empty ∧ save.self.deviceCode = .empty) ∨
    Challenge save.self.authorizationId save.self.deviceCode

inductive Written (mac : UInt64) : Members → Prop
  | identity {installation secret : ArduinoString} (valid : uuid installation = true) (long : hex secret 64 = true) :
      Written mac (LoggerAuthorization.identity (DeviceAuthorizationPolicy.hardwareId mac) installation secret)
  | saved {save : Save} (savable : Savable mac save) : Written mac save.record

structure Kept (mac : UInt64) (board : Board) : Prop where
  record : ∀ record, board.record = some record → Written mac record
  saves : ∀ entry ∈ board.saves, Savable mac entry.1

structure Asked (pending : Bool) (status : Status) (id code : ArduinoString) (start ack verify : Bool) : Prop where
  starts : start = true → ack = false ∧ verify = false ∧ pending = false ∧ status ≠ .awaitingApproval
  proof : start = false → Challenge id code
  pends : ack = true ∨ verify = true → pending = true

/-- The fields of a loaded record; the stored credential fits its origin. -/
structure Sound (mac : UInt64) (logger : LoggerAuthorization) : Prop where
  hardware : logger.hardwareId = DeviceAuthorizationPolicy.hardwareId mac
  origin : logger.origin ≠ missing
  installation : uuid logger.installationId = true
  secret : hex logger.installationSecret 64 = true
  credential : logger.storedOrigin ≠ missing → Credential logger.storedToken logger.storedDeviceId
  loaded : logger.activeToken ≠ .empty → Credential logger.storedToken logger.storedDeviceId
  active : logger.config.appDeviceToken ≠ .empty → Credential logger.storedToken logger.storedDeviceId
  phase : logger.rotationPhase ≤ 2
  candidate : logger.rotationPhase ≠ 0 → printable logger.candidate 32 511 = true ∧
    printable logger.rotationNonce 8 96 = true ∧ logger.rotationVersion ≠ 0
  challenge : (logger.authorizationId = .empty ∧ logger.deviceCode = .empty) ∨
    Challenge logger.authorizationId logger.deviceCode
  pending : logger.ackPending = true → Credential logger.bootstrapToken logger.bootstrapDeviceId ∧
    Challenge logger.authorizationId logger.deviceCode

/-- A logger that loaded its record, at any point of a challenge. -/
structure Live (mac : UInt64) (logger : LoggerAuthorization) : Prop extends Sound mac logger where
  awaiting : logger.status = .awaitingApproval →
    Challenge logger.authorizationId logger.deviceCode ∧ logger.ackPending = false
  starting : logger.startPending = true →
    logger.busy = false ∧ logger.ackPending = false ∧ logger.status ≠ .awaitingApproval
  asked : logger.busy = true →
    Asked logger.ackPending logger.status logger.authorizationId logger.deviceCode logger.requestStart
      logger.requestAck logger.requestVerify

/-- A logger without a bearer that has nothing left to save: its begin failed, or it only
waits for the restart that its first credential needs. -/
structure Inert (logger : LoggerAuthorization) : Prop where
  idle : logger.busy = false
  bearer : logger.config.appDeviceToken = .empty
  starting : logger.startPending = false
  pending : logger.ackPending = false
  waiting : logger.status ≠ .awaitingApproval
  silent : (logger.ready = false ∧ logger.rotationPhase = 0 ∧ logger.storedToken = .empty) ∨
    logger.restart = true

structure Held (mac : UInt64) (logger : LoggerAuthorization) (board : Board) : Prop where
  kept : Kept mac board
  flight : logger.busy = board.inFlight
  state : Live mac logger ∨ Inert logger

variable {mac : UInt64} {logger : LoggerAuthorization} {board : Board} {α : Type}
  {post : α → Board → Prop} {crash : Board → Prop}

section Requests

theorem wp_ask {op : AuthOp} {rest : Network.Reply op → Auth α}
    (reads : ∀ reply after, board.Step op reply after → after = board)
    (tears : ∀ after, board.Torn op after → after = board) (kept : crash board)
    (next : ∀ reply, Board.device.wp (rest reply) post crash board) :
    Board.device.wp (ask op >>= rest) post crash board := by
  apply Model.wp_bind.mpr
  refine ⟨kept, fun after torn => tears after torn ▸ kept, fun reply after step => ?_⟩
  obtain rfl := reads reply after step
  exact ⟨kept, next reply⟩

theorem Kept.written (kept : Kept mac board) {after : Board} {record : Members} {written : Bool}
    (replaced : board.Replaced after record written) (valid : Written mac record)
    (saves : after.saves = board.saves) : Kept mac after := by
  refine ⟨fun found read => ?_, saves ▸ kept.saves⟩
  rcases replaced with put | ⟨-, left⟩
  · obtain rfl := Option.some.inj (put.symm.trans read)
    exact valid
  · exact kept.record found (left ▸ read)

theorem Kept.put (kept : Kept mac board) {record : Members} (valid : Written mac record) :
    Kept mac { board with record := some record } := by
  have replaced : board.Replaced { board with record := some record } record true := .inl rfl
  exact kept.written replaced valid rfl

theorem Kept.saved (kept : Kept mac board) {after : Board} {save : Save} {saved : Bool}
    (savable : Savable mac save) (step : board.Step (.saveRecord save) saved after) : Kept mac after := by
  obtain ⟨replaced, -, saves⟩ := step
  have replaced : board.Replaced { after with saves := board.saves } save.record saved := replaced
  have record := kept.written replaced (.saved savable) rfl
  refine ⟨record.record, fun entry member => ?_⟩
  rw [saves] at member
  rcases List.mem_append.mp member with old | new
  · exact kept.saves entry old
  · rw [List.mem_singleton.mp new]
    exact savable

theorem wp_saveRecord {token device : ArduinoString} {version : UInt32} {rest : Bool → Auth α}
    (kept : Kept mac board) (savable : Savable mac ⟨logger, token, device, version⟩)
    (next : ∀ saved after, Kept mac after → after.inFlight = board.inFlight →
      Board.device.wp (rest saved) post (Kept mac) after) :
    Board.device.wp (logger.saveRecord token device version >>= rest) post (Kept mac) board := by
  apply Model.wp_bind.mpr
  refine ⟨kept, ?_, fun saved after step => ⟨kept.saved savable step, ?_⟩⟩
  · rintro after (rfl | rfl)
    · exact kept
    · exact kept.put (.saved savable)
  · exact next saved after (kept.saved savable step) step.2.1

theorem wp_submit {request : Submission} {rest : Bool → Auth α} (kept : Kept mac board)
    (taken : board.inFlight = false →
      Board.device.wp (rest true) post (Kept mac) { board with inFlight := true })
    (refused : Board.device.wp (rest false) post (Kept mac) board) :
    Board.device.wp (ask (.submit request) >>= rest) post (Kept mac) board := by
  apply Model.wp_bind.mpr
  refine ⟨kept, fun after torn => torn ▸ kept, fun (accepted : Bool) after step => ?_⟩
  cases accepted with
  | false =>
    obtain rfl : after = board := step
    exact ⟨kept, refused⟩
  | true =>
    obtain ⟨free, rfl⟩ : board.inFlight = false ∧ after = { board with inFlight := true } := step
    exact ⟨⟨kept.record, kept.saves⟩, taken free⟩

theorem wp_randomHex {count : Nat} {rest : List Char → Auth α} (kept : crash board)
    (next : ∀ digits, digits.length = 2 * count → digits.all hexDigit = true →
      Board.device.wp (rest digits) post crash board) :
    Board.device.wp (randomHex count >>= rest) post crash board := by
  induction count generalizing rest with
  | zero => exact next [] rfl rfl
  | succ count ih =>
    simp only [randomHex, Prog.bind_bind_eq, Prog.pure_bind_eq]
    apply ih
    intro digits length hexadecimal
    refine wp_ask (fun _ _ same => same) (fun _ same => same) kept fun value => ?_
    apply next
    · rw [List.length_append, length]
      rfl
    · simp [hexadecimal, nibble_hexDigit]

theorem wp_randomUuid {rest : List Char → Auth α} (kept : crash board)
    (next : ∀ digits, uuid (.cut digits) = true → Board.device.wp (rest digits) post crash board) :
    Board.device.wp (randomUuid >>= rest) post crash board := by
  simp only [randomUuid, Prog.bind_bind_eq]
  apply wp_randomHex kept
  intro digits length hexadecimal
  refine wp_ask (fun _ _ same => same) (fun _ same => same) kept fun (variant : UInt32) => ?_
  have four : ∀ low < 4, hexDigit (("89ab".toList)[low]!) = true := by decide
  generalize set : (digits.set 12 '4').set 16 (("89ab".toList)[variant.toNat % 4]!) = s
  have size : s.length = 32 := by simp [← set, length]
  have digit : s.all hexDigit = true := by
    rw [List.all_eq_true] at hexadecimal ⊢
    intro char member
    rcases List.mem_or_eq_of_mem_set (set ▸ member) with member | rfl
    · rcases List.mem_or_eq_of_mem_set member with member | rfl
      · exact hexadecimal char member
      · decide
    · exact four _ (Nat.mod_lt _ (by decide))
  apply next
  apply uuid_cut
  · simp [size]
  · rw [List.all_eq_true]
    intro char member
    apply List.all_eq_true.mp digit
    simp only [List.mem_append] at member
    rcases member with part | part | part | part | part
    · exact List.mem_of_mem_take part
    · exact List.mem_of_mem_drop (List.mem_of_mem_take part)
    · exact List.mem_of_mem_drop (List.mem_of_mem_take part)
    · exact List.mem_of_mem_drop (List.mem_of_mem_take part)
    · exact List.mem_of_mem_drop part

end Requests

section Begin

structure Fresh (mac : UInt64) (logger : LoggerAuthorization) : Prop where
  hardware : logger.hardwareId = DeviceAuthorizationPolicy.hardwareId mac
  origin : logger.origin ≠ missing
  blank : logger.authorizationId = .empty ∧ logger.deviceCode = .empty
  pending : logger.ackPending = false
  status : logger.status = .unavailable
  starting : logger.startPending = false
  idle : logger.busy = false
  stored : logger.storedToken = .empty
  phase : logger.rotationPhase = 0
  configured : logger.config.appDeviceToken = .empty
  ready : logger.ready = false

theorem Live.failed (live : Live mac logger) (error : String) : Live mac (logger.failed error) :=
  { live with }

theorem Fresh.inert (fresh : Fresh mac logger) (error : String) : Inert (logger.failed error) :=
  ⟨fresh.idle, fresh.configured, fresh.starting, fresh.pending, by simp [LoggerAuthorization.failed, fresh.status],
    .inl ⟨fresh.ready, fresh.phase, fresh.stored⟩⟩

theorem Fresh.identified (fresh : Fresh mac logger) (installationId installationSecret : ArduinoString) :
    Fresh mac { logger with installationId, installationSecret } :=
  { fresh with hardware := fresh.hardware }

theorem identity_restored (fresh : Fresh mac logger) {installation secret : ArduinoString}
    (valid : uuid installation = true) (long : hex secret 64 = true) :
    logger.restoreRecord (some (.object
      (LoggerAuthorization.identity (DeviceAuthorizationPolicy.hardwareId mac) installation secret))) =
      (true, { logger with
        config := { logger.config with appDeviceToken := .empty }
        activeToken := .empty, deviceId := .empty, candidate := .empty, rotationPhase := 0
        installationId := installation, installationSecret := secret
        storedOrigin := missing, storedToken := missing, storedDeviceId := missing, credentialVersion := 0 }) := by
  generalize record : Json.object
    (LoggerAuthorization.identity (DeviceAuthorizationPolicy.hardwareId mac) installation secret) = doc
  have own : (doc.member "hardware_id").asString = logger.hardwareId ∧
      (doc.member "installation_id").asString = installation ∧
      (doc.member "installation_secret").asString = secret := by
    subst record
    exact ⟨(Json.asString_ofText _).trans fresh.hardware.symm, Json.asString_ofText _, Json.asString_ofText _⟩
  have absent : (doc.member "origin").asString = missing ∧ (doc.member "pending_origin").asString = missing ∧
      (doc.member "access_token").asString = missing ∧ (doc.member "device_id").asString = missing ∧
      (doc.member "credential_version").uint?.getD 0 = 0 ∧ doc.containsKey "access_token" = false := by
    subst record
    exact ⟨rfl, rfl, rfl, rfl, rfl, rfl⟩
  obtain ⟨hardware, sameInstallation, sameSecret⟩ := own
  obtain ⟨origin, pending, token, device, version, contains⟩ := absent
  simp only [restoreRecord, readStored, restoreOwner, restoreConfig, hardware, sameInstallation, sameSecret,
    origin, pending, token, device, version, contains, valid, long, if_neg fresh.origin.symm]
  simp

theorem identity_sound (fresh : Fresh mac logger) {installation secret : ArduinoString}
    (valid : uuid installation = true) (long : hex secret 64 = true) :
    Sound mac { logger with
      config := { logger.config with appDeviceToken := .empty }
      activeToken := .empty, deviceId := .empty, candidate := .empty, rotationPhase := 0
      installationId := installation, installationSecret := secret
      storedOrigin := missing, storedToken := missing, storedDeviceId := missing, credentialVersion := 0 } where
  hardware := fresh.hardware
  origin := fresh.origin
  installation := valid
  secret := long
  credential other := absurd rfl other
  loaded other := absurd rfl other
  active other := absurd rfl other
  phase := UInt8.zero_le
  candidate other := absurd rfl other
  challenge := .inl fresh.blank
  pending pending := absurd (fresh.pending.symm.trans pending) (by decide)

section Saved

variable {save : Save}

theorem unowned_sound (fresh : Fresh mac logger) (savable : Savable mac save) :
    Sound mac (save.unowned logger) where
  hardware := fresh.hardware
  origin := fresh.origin
  installation := savable.installation
  secret := savable.secret
  credential other := by
    have credential := savable.credential other
    have whole := Save.record_of_token (printable_ne_empty credential.1 (by decide))
    simpa [Save.unowned, whole, Json.member, Save.members, Members.get, Members.find?] using credential
  loaded other := absurd rfl other
  active other := absurd rfl other
  phase := UInt8.zero_le
  candidate other := absurd rfl other
  challenge := .inl fresh.blank
  pending pending := absurd (fresh.pending.symm.trans pending) (by decide)

theorem Sound.ownCredential (sound : Sound mac logger) (savable : Savable mac save)
    (credential : Credential save.token save.deviceId) : Sound mac (save.ownCredential logger) :=
  { sound with
    credential := fun _ => credential
    loaded := fun _ => credential
    active := fun _ => credential
    phase := savable.phase
    candidate := savable.candidate }

theorem Sound.ownPending (sound : Sound mac logger) (savable : Savable mac save) :
    Sound mac (save.ownPending logger) :=
  { sound with
    challenge := savable.challenge
    pending := savable.pending }

theorem Sound.restoreConfig (sound : Sound mac logger) (doc : Json) :
    Sound mac (logger.restoreConfig doc) := by
  rw [LoggerAuthorization.restoreConfig]
  split
  · exact { sound with active := sound.loaded }
  · exact sound

theorem saved_sound (fresh : Fresh mac logger) (savable : Savable mac save) :
    Sound mac (save.restoredIn logger) := by
  have unowned := unowned_sound fresh savable
  apply Sound.restoreConfig
  by_cases own : save.self.storedOrigin = logger.origin
  · have owned := unowned.ownCredential savable (savable.credential (own ▸ fresh.origin))
    by_cases asked : save.self.origin = logger.origin
    · simpa [own, asked] using owned.ownPending savable
    · simpa [own, asked] using owned
  · by_cases asked : save.self.origin = logger.origin
    · simpa [own, asked] using unowned.ownPending savable
    · simpa [own, asked] using unowned

end Saved

/-- Every record this hardware wrote loads, and nothing was asked or started yet. -/
theorem written_restored (fresh : Fresh mac logger) {record : Members} (written : Written mac record) :
    ∃ next, logger.restoreRecord (some (.object record)) = (true, next) ∧ Sound mac next ∧
      next.startPending = false ∧ next.busy = false ∧ next.status = .unavailable := by
  cases written with
  | identity valid long =>
    exact ⟨_, identity_restored fresh valid long, identity_sound fresh valid long, fresh.starting, fresh.idle,
      fresh.status⟩
  | @saved save savable =>
    refine ⟨_, Save.restoreRecord_saved savable.toCoherent (fresh.hardware.trans savable.hardware.symm)
      fresh.origin, saved_sound fresh savable, ?_⟩
    rw [Save.restoredIn, restoreConfig]
    split <;> split <;> split <;> exact ⟨fresh.starting, fresh.idle, fresh.status⟩

theorem Sound.live (sound : Sound mac logger) (starting : logger.startPending = false)
    (idle : logger.busy = false) (awaiting : logger.status = .awaitingApproval →
      Challenge logger.authorizationId logger.deviceCode ∧ logger.ackPending = false) : Live mac logger :=
  { sound with
    awaiting
    starting := fun started => absurd (starting.symm.trans started) (by decide)
    asked := fun busy => absurd (idle.symm.trans busy) (by decide) }

theorem wp_restored (fresh : Fresh mac logger) {record : Members} (written : Written mac record)
    (kept : Kept mac board) (flight : board.inFlight = false) :
    Board.device.wp (logger.restored (some (.object record))) (fun answer => Held mac answer.2) (Kept mac)
      board := by
  obtain ⟨next, same, sound, starting, idle, status⟩ := written_restored fresh written
  simp only [restored, same, Bool.not_true, Bool.false_eq_true, if_false]
  refine wp_ask (fun _ _ same => same) (fun _ same => same) kept fun (started : Bool) => ?_
  have flight : next.busy = board.inFlight := idle.trans flight.symm
  cases started with
  | false =>
    refine ⟨kept, kept, flight, .inl (Live.failed (sound.live starting idle fun waiting => ?_) _)⟩
    rw [status] at waiting
    cases waiting
  | true =>
    simp only [Bool.not_true, Bool.false_eq_true, if_false]
    split
    · refine ⟨kept, kept, flight, .inl (Sound.live { sound with } starting idle fun waiting => ?_)⟩
      dsimp only at waiting
      split at waiting <;> cases waiting
    · next challenged =>
      refine wp_ask (fun _ _ same => same) (fun _ same => same) kept fun now => ?_
      refine wp_ask (fun _ _ same => same) (fun _ same => same) kept fun startedMs => ?_
      refine ⟨kept, kept, flight, .inl (Sound.live { sound with } starting idle fun waiting => ?_)⟩
      have unsaved : next.ackPending = false := by
        cases saved : next.ackPending with
        | false => rfl
        | true => simp [saved] at waiting
      refine ⟨sound.challenge.resolve_left fun blank => challenged ?_, unsaved⟩
      simp [blank.1]

theorem endpoint_ne_missing (host port : ArduinoString) : host ++ ArduinoString.of ":" ++ port ≠ missing := by
  intro same
  have colon : ':' ∈ missing.chars := by
    rw [← same, ArduinoString.chars_append, ArduinoString.chars_append]
    exact List.mem_append_left _ (List.mem_append_right _ (by decide))
  exact absurd colon (by decide)

theorem wp_begin (config : UploadConfig) (kept : Kept mac board) (flight : board.inFlight = false) :
    Board.device.wp (begin mac config) (fun answer => Held mac answer.2) (Kept mac) board := by
  rw [begin]
  refine wp_randomHex kept fun csrf _ _ => ?_
  dsimp only
  generalize start : ({
      config := { config with appDeviceToken := .empty }
      hardwareId := DeviceAuthorizationPolicy.hardwareId mac
      origin := config.mqttHost ++ .of ":" ++ .of (toString config.mqttPort.toNat)
      csrf := .cut csrf } : LoggerAuthorization) = logger
  have fresh : Fresh mac logger := by
    rw [← start]
    exact ⟨rfl, endpoint_ne_missing _ _, ⟨rfl, rfl⟩, rfl, rfl, rfl, rfl, rfl, rfl, rfl, rfl⟩
  have held {error : String} {last : Board} (kept : Kept mac last) (flight : last.inFlight = false) :
      Held mac (logger.failed error) last :=
    ⟨kept, fresh.idle.trans flight.symm, .inr (fresh.inert error)⟩
  refine wp_ask (fun _ _ same => same) (fun _ same => same) kept fun (opened : Bool) => ?_
  cases opened with
  | false => exact ⟨kept, held kept flight⟩
  | true =>
    apply Model.wp_bind.mpr
    refine ⟨kept, fun after torn => torn ▸ kept, ?_⟩
    rintro saved after ⟨rfl, rfl⟩
    refine ⟨kept, ?_⟩
    cases stored : after.record with
    | some record =>
      simp only [Option.map_some, beginSaved]
      split
      · exact ⟨kept, held kept flight⟩
      · exact wp_restored fresh (kept.record record stored) kept flight
    -- without a record a new identity is made and written before anything else
    | none =>
      refine wp_randomUuid kept fun installation valid => ?_
      refine wp_randomHex kept fun secret length hexadecimal => ?_
      have long : hex (.cut secret) 64 = true := by simpa [length] using hex_cut hexadecimal
      have written : Written mac (LoggerAuthorization.identity logger.hardwareId (.cut installation)
          (.cut secret)) := fresh.hardware ▸ .identity valid long
      apply Model.wp_bind.mpr
      refine ⟨kept, ?_, fun (put : Bool) last step => ?_⟩
      · rintro last (rfl | rfl)
        · exact kept
        · exact kept.put written
      · obtain ⟨replaced, sameFlight, saves⟩ := step
        have kept := kept.written replaced written saves
        have flight := sameFlight.trans flight
        refine ⟨kept, ?_⟩
        cases put with
        | false => exact ⟨kept, kept, fresh.idle.trans flight.symm, .inr ((fresh.identified _ _).inert _)⟩
        | true => exact wp_restored (fresh.identified _ _) written kept flight

end Begin

end ApexiDevices.LoggerAuthorization
