import ApexiDevices.Authorization.Visiting
import ApexiDevices.Management.Identity

set_option autoImplicit false

/-!
# Device ids that the server issues

An issued id is first the id of the bootstrap credential. Its promotion makes it
the id of the record, and the next boot that of the uploader.
-/

namespace ApexiDevices

open Device

namespace LoggerAuthorization

open DeviceAuthorizationPolicy (printable_ne_empty)

def promoted (logger : LoggerAuthorization) (board : Board) : Bool :=
  board.record.any fun record =>
    (record.get "access_token").asString == logger.bootstrapToken &&
      (record.get "device_id").asString == logger.bootstrapDeviceId &&
        (record.get "origin").asString == logger.origin

/-- An issued id, from the bootstrap credential that `accept` has persisted to the logger of the next boot. -/
structure Issued (mac : UInt64) (id : ArduinoString) (rebooted : LoggerAuthorization) : Prop where
  path : ∃ (logger active : LoggerAuthorization) (board last after : Board) (config : UploadConfig),
    Reached Reports mac (some logger) board ∧ logger.ackPending = true ∧ logger.bootstrapDeviceId = id ∧
      Board.device.Runs logger.loop board active last ∧ logger.promoted last = true ∧ endpoint config = logger.origin ∧
        Board.device.Runs (begin mac config) { last with inFlight := false } (true, rebooted) after

variable {mac : UInt64} {logger rebooted : LoggerAuthorization} {board : Board} {id : ArduinoString}

structure Credentialed (id : ArduinoString) (rebooted : LoggerAuthorization) : Prop where
  running : rebooted.restart = false
  bearer : (rebooted.bearer false).isEmpty = false
  device : rebooted.config.deviceId = id

variable {save : Save} {config : UploadConfig}

theorem restoredIn_credentialed (savable : Savable mac save) {fresh : LoggerAuthorization}
    (origin : fresh.origin ≠ missing) (stored : save.self.storedOrigin = fresh.origin)
    (running : fresh.restart = false) : Credentialed save.deviceId (save.restoredIn fresh) := by
  have credential := savable.credential (stored ▸ origin)
  have present := printable_ne_empty credential.1 (by decide)
  have named : save.deviceId.isEmpty = false :=
    eq_false_of_ne_true fun blank => DeviceAuthorizationPolicy.deviceId_ne_empty credential.2 (ArduinoString.isEmpty_iff.mp blank)
  have shown : save.token.isEmpty = false :=
    eq_false_of_ne_true fun blank => present (ArduinoString.isEmpty_iff.mp blank)
  have contains : (Json.object save.members).containsKey "access_token" = true := rfl
  by_cases asked : save.self.origin = fresh.origin
  · constructor <;> simp [Save.restoredIn, Save.unowned, stored, asked, Save.ownCredential, Save.ownPending,
      restoreConfig, Save.record_of_token present, contains, LoggerAuthorization.bearer, running, named, shown]
  · constructor <;> simp [Save.restoredIn, Save.unowned, stored, asked, Save.ownCredential, restoreConfig,
      Save.record_of_token present, contains, LoggerAuthorization.bearer, running, named, shown]

theorem restored_credentialed {fresh next : LoggerAuthorization} {saved : Text}
    (read : fresh.restoreRecord saved = (true, next)) (credentialed : Credentialed id next) (board : Board) :
    Board.device.wp (fresh.restored saved) (fun answer _ => answer.1 = true → Credentialed id answer.2)
      (fun _ => True) board := by
  simp only [restored, read, Bool.not_true, Bool.false_eq_true, if_false]
  refine wp_ask (fun _ _ same => same) (fun _ same => same) trivial fun (started : Bool) => ?_
  cases started with
  | false => exact ⟨trivial, fun refused => by cases refused⟩
  | true =>
    simp only [Bool.not_true, Bool.false_eq_true, if_false]
    split
    · exact ⟨trivial, fun _ => ⟨credentialed.running, credentialed.bearer, credentialed.device⟩⟩
    · refine wp_ask (fun _ _ same => same) (fun _ same => same) trivial fun now => ?_
      refine wp_ask (fun _ _ same => same) (fun _ same => same) trivial fun startedMs => ?_
      exact ⟨trivial, fun _ => ⟨credentialed.running, credentialed.bearer, credentialed.device⟩⟩

theorem begin_credentialed (savable : Savable mac save) (record : board.record = some save.record)
    (origin : save.self.storedOrigin = endpoint config) :
    Board.device.wp (begin mac config) (fun answer _ => answer.1 = true → Credentialed save.deviceId answer.2)
      (fun _ => True) board := by
  rw [begin]
  refine wp_randomHex trivial fun csrf _ _ => ?_
  dsimp only
  generalize start : ({
      config := { config with appDeviceToken := .empty }
      hardwareId := DeviceAuthorizationPolicy.hardwareId mac
      origin := config.mqttHost ++ .of ":" ++ .of (toString config.mqttPort.toNat)
      csrf := .cut csrf } : LoggerAuthorization) = fresh
  have own : fresh.origin = endpoint config := start ▸ rfl
  have present : fresh.origin ≠ missing := own ▸ endpoint_ne_missing _ _
  have hardware : fresh.hardwareId = save.self.hardwareId := (start ▸ rfl : fresh.hardwareId = _).trans savable.hardware.symm
  have running : fresh.restart = false := start ▸ rfl
  refine wp_ask (fun _ _ same => same) (fun _ same => same) trivial fun (opened : Bool) => ?_
  cases opened with
  | false => exact ⟨trivial, fun refused => by cases refused⟩
  | true =>
    apply Model.wp_bind.mpr
    refine ⟨trivial, fun _ _ => trivial, ?_⟩
    rintro saved after ⟨rfl, rfl⟩
    refine ⟨trivial, ?_⟩
    simp only [record, Option.map_some, beginSaved]
    split
    · exact ⟨trivial, fun refused => by cases refused⟩
    · exact restored_credentialed (Save.restoreRecord_saved savable.toCoherent hardware present)
        (restoredIn_credentialed savable present (origin.trans own.symm) running) after

theorem promoted_saved (active : logger.promoted board = true) (kept : Kept mac board) (origin : logger.origin ≠ missing) :
    ∃ save, Savable mac save ∧ board.record = some save.record ∧ save.deviceId = logger.bootstrapDeviceId ∧
      save.self.storedOrigin = logger.origin := by
  unfold promoted at active
  cases found : board.record with
  | none => simp [found] at active
  | some record =>
  simp only [found, Option.any_some, Bool.and_eq_true, beq_iff_eq] at active
  obtain ⟨⟨-, device⟩, stored⟩ := active
  cases kept.record record found with
  | identity => exact absurd stored.symm origin
  | @saved save savable =>
    have own : save.self.storedOrigin = logger.origin := by
      have read : save.record.get "origin" = save.members.get "origin" := Save.member_record (by decide) (by decide)
      rw [← stored, read]
      exact (Json.asString_ofText _).symm
    have credential := savable.credential (own ▸ origin)
    have whole := Save.record_of_token (printable_ne_empty credential.1 (by decide))
    refine ⟨save, savable, rfl, ?_, own⟩
    rw [← device, whole]
    exact (Json.asString_ofText _).symm

theorem Issued.credentialed (issued : Issued mac id rebooted) : Credentialed id rebooted := by
  obtain ⟨logger, active, board, last, after, config, reached, pending, rfl, loop, held, origin, reboot⟩ := issued.path
  have reports : Reports logger .loop := fun impossible => by cases impossible
  have own : logger.origin ≠ missing := origin ▸ endpoint_ne_missing _ _
  obtain ⟨save, savable, record, device, stored⟩ :=
    promoted_saved held (held_of_reached (reached.run reports loop)).1 own
  have begun := @begin_credentialed mac { last with inFlight := false } save config savable record
    (stored.trans origin.symm)
  exact device ▸ Model.wp_runs begun reboot rfl

theorem Issued.valid (issued : Issued mac id rebooted) : DeviceAuthorizationPolicy.deviceId id = true := by
  obtain ⟨logger, active, board, last, after, config, reached, pending, rfl, -⟩ := issued.path
  rcases ((held_of_reached reached).2 logger rfl).state with live | inert
  · exact (live.pending pending).1.2
  · exact absurd (inert.pending.symm.trans pending) (by decide)

/-- A document addressed to a device: what stands in front of its address check lets it pass. -/
def AddressedTo (id : ArduinoString) (envelope : Members) (rotation : Members) : Prop :=
  (envelope.get "schema_version").uint? = some 1 ∧ envelope.get "device_id" = .ofText id ∧
    envelope.find? "credential_rotation" = some (.object rotation)

theorem stageDesired_addressed {envelope rotation : Members} (addressed : AddressedTo logger.config.deviceId envelope rotation) :
    logger.stageDesired envelope = logger.stageRotation (some rotation) := by
  obtain ⟨schema, device, found⟩ := addressed
  simp only [stageDesired, found, schema, device, Json.asString_ofText]
  rw [if_neg (by simp [Json.ofText, Json.isString])]

end LoggerAuthorization

namespace LiveUpload

open LoggerAuthorization

structure ReceivedFor (library : JsonLibrary) (id : ArduinoString) (payload : Bytes) (document : Document)
    (version : UInt32) : Prop where
  size : payload.length ≠ 0 ∧ payload.length ≤ kRemoteConfigJsonCapacity
  parsed : library.deserialize kRemoteConfigJsonCapacity payload = some document
  schema : library.asInt (document.member "schema_version") = 1
  device : (document.member "device_id").text = cString id
  version : (document.member "config_version").uint? = some version

structure Works (authorization : LoggerAuthorization) (id : ArduinoString) (upload : LiveUpload) : Prop where
  identity : upload.deviceId = cString id
  fixpoint : Logic.normalizeTopicSegment (cString id).bytes = (cString id).bytes
  captures : upload.captureRefused (some authorization) = false
  staged : ∀ envelope rotation, AddressedTo id envelope rotation →
    authorization.stageDesired envelope = authorization.stageRotation (some rotation)
  consumed : ∀ library payload document version, ReceivedFor library id payload document version →
    upload.addressed library payload = some (document, version)

variable {mac : UInt64} {id : ArduinoString} {rebooted : LoggerAuthorization}

/-- An issued id works for the uploader just when it does not end in a dash. -/
theorem issuedId_works (issued : Issued mac id rebooted) (self : LiveUpload) (config : AppConfig.UploadConfig)
    (same : config.deviceId = cString rebooted.config.deviceId) (appliedConfigVersion : UInt32) :
    Works rebooted id (self.begin config appliedConfigVersion none) ↔ id.chars.getLast? ≠ some '-' := by
  have credentialed := issued.credentialed
  have valid := issued.valid
  rw [credentialed.device] at same
  have named : (self.begin config appliedConfigVersion none).deviceId = normalizedDevice (cString id) :=
    congrArg normalizedDevice same
  constructor
  · intro works
    exact (normalizedDevice_eq valid).mp (named.symm.trans works.identity)
  · intro undashed
    have identity := named.trans ((normalizedDevice_eq valid).mpr undashed)
    refine ⟨identity, ?_, ?_, ?_, ?_⟩
    · rw [Logic.normalizeTopicSegment_eq (cString_idBytes valid), ne_eq, cString_last valid]
      exact undashed
    · simp only [captureRefused, Option.any_some, credentialed.running, credentialed.bearer, credentialed.device,
        identity, bne_self_eq_false, Bool.or_self]
    · intro envelope rotation addressed
      exact stageDesired_addressed (credentialed.device.symm ▸ addressed)
    · intro library payload document version received
      obtain ⟨⟨some, fits⟩, parsed, schema, device, version⟩ := received
      simp [LiveUpload.addressed, some, fits, parsed, schema, device, version, identity]

/-! A new logger is approved under the given id, and boots once more. -/

def issuedFor (id : String) : Members :=
  [("status", .string "authorized"), ("token_type", .string "Bearer"),
    ("access_token", .string "nnnnnnnnnnnnnnnnnnnnnnnnnnnnnnnnnnnnnnnn"), ("device_id", .string id),
    ("credential_version", .int 2)]

def pendingFor (id : String) : Running :=
  ((((boot true httpsConfig {}).perform 0 none .requestAuthorization).perform 0 (served 201 challengeBody)
    .loop).perform 6000 none .loop).perform 6000 (served 200 (issuedFor id)) .loop |>.perform 12000 none .loop

def promotedFor (id : String) : Running :=
  (pendingFor id).perform 12000 (served 200 [("status", .string "acknowledged")]) .loop

theorem reached_pendingFor (id : String) :
    Reached Reports 0 (some (pendingFor id).logger) (pendingFor id).board := by
  have others (logger : LoggerAuthorization) (operation : Operation)
      (other : operation ≠ .finishRotationFallback true) : Reports logger operation :=
    fun same => absurd same other
  have started := reached_perform (reached_boot .blank true httpsConfig) 0 none .requestAuthorization
    (others _ _ fun impossible => by cases impossible)
  have challenged := reached_loop started others 0 (served 201 challengeBody)
  have polled := reached_loop challenged others 6000 none
  have issued := reached_loop polled others 6000 (served 200 (issuedFor id))
  exact reached_loop issued others 12000 none

theorem runs_perform (running : Running) (now : UInt32) (response : Option Answer) (operation : Operation) :
    Board.device.Runs (operation.run running.logger) running.board (running.perform now response operation).logger
      (running.perform now response operation).board :=
  Model.runs_of_handler (Board.step_answer true now response) _ _

def bootedFor (id : String) : (Bool × LoggerAuthorization) × Board :=
  (LoggerAuthorization.begin 0 httpsConfig).exec (Board.answer true 0 none)
    { (promotedFor id).board with inFlight := false }

def issues (id : String) : Bool :=
  (pendingFor id).logger.ackPending && (pendingFor id).logger.bootstrapDeviceId == .of id &&
    (pendingFor id).logger.promoted (promotedFor id).board &&
      endpoint httpsConfig == (pendingFor id).logger.origin && (bootedFor id).1.1

theorem issued_bootedFor {id : String} (issues : issues id = true) : Issued 0 (.of id) (bootedFor id).1.2 := by
  simp only [LiveUpload.issues, Bool.and_eq_true, beq_iff_eq] at issues
  obtain ⟨⟨⟨⟨pending, named⟩, active⟩, origin⟩, booted⟩ := issues
  have loop := runs_perform (pendingFor id) 12000 (served 200 [("status", .string "acknowledged")]) .loop
  have reboot : Board.device.Runs (LoggerAuthorization.begin 0 httpsConfig)
      { (promotedFor id).board with inFlight := false } (bootedFor id).1 (bootedFor id).2 :=
    Model.runs_of_handler (Board.step_answer true 0 none) _ _
  rw [← Prod.eta (bootedFor id).1, booted] at reboot
  exact ⟨(pendingFor id).logger, (promotedFor id).logger, (pendingFor id).board, (promotedFor id).board,
    (bootedFor id).2, httpsConfig, reached_pendingFor id, pending, named, loop, active, origin, reboot⟩

def configuredFor (id : String) : AppConfig.UploadConfig where
  protocol := .https
  deviceId := cString (.of id)

theorem configuredFor_booted {id : String} (issues : issues id = true) :
    (configuredFor id).deviceId = cString (bootedFor id).1.2.config.deviceId :=
  (congrArg cString (issued_bootedFor issues).credentialed.device).symm

theorem issues_logger : issues "mda-logger" = true := by
  decide +kernel

theorem issuedId_works_logger :
    Works (bootedFor "mda-logger").1.2 (.of "mda-logger")
      (({} : LiveUpload).begin (configuredFor "mda-logger") 0 none) :=
  (issuedId_works (issued_bootedFor issues_logger) {} (configuredFor "mda-logger")
    (configuredFor_booted issues_logger) 0).mpr (by decide)

theorem not_issuedId_works :
    ¬∀ (mac : UInt64) (id : ArduinoString) (rebooted : LoggerAuthorization) (self : LiveUpload)
        (config : AppConfig.UploadConfig) (appliedConfigVersion : UInt32), Issued mac id rebooted →
      config.deviceId = cString rebooted.config.deviceId →
      Works rebooted id (self.begin config appliedConfigVersion none) := by
  intro claimed
  have issues : issues "mda-" = true := by
    decide +kernel
  have works := claimed 0 (.of "mda-") (bootedFor "mda-").1.2 {} (configuredFor "mda-") 0 (issued_bootedFor issues)
    (configuredFor_booted issues)
  exact absurd works.identity (by decide)

end LiveUpload

end ApexiDevices
