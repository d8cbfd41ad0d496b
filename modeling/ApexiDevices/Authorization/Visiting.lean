import ApexiDevices.Authorization.Runs

set_option autoImplicit false

/-!
# A logger that is started under another server

The record stays bound to the origin it was acknowledged for. A visit is every
run under other origins in which no save binds the record to one of them.
-/

namespace ApexiDevices.LoggerAuthorization

open Device DeviceAuthorizationPolicy

structure Credentials where
  accessToken : ArduinoString
  deviceId : ArduinoString
  rotationPhase : UInt8
  candidate : ArduinoString
  rotationVersion : UInt32
  rotationNonce : ArduinoString
  appliedRotationVersion : UInt32
  appliedRotationNonce : ArduinoString
deriving DecidableEq

def credentials (logger : LoggerAuthorization) : Credentials where
  accessToken := logger.activeToken
  deviceId := logger.deviceId
  rotationPhase := logger.rotationPhase
  candidate := logger.candidate
  rotationVersion := logger.rotationVersion
  rotationNonce := logger.rotationNonce
  appliedRotationVersion := logger.appliedRotationVersion
  appliedRotationNonce := logger.appliedRotationNonce

def Save.credentials (save : Save) : Credentials where
  accessToken := save.token
  deviceId := save.deviceId
  rotationPhase := save.self.rotationPhase
  candidate := save.self.candidate
  rotationVersion := save.self.rotationVersion
  rotationNonce := save.self.rotationNonce
  appliedRotationVersion := save.self.appliedRotationVersion
  appliedRotationNonce := save.self.appliedRotationNonce

structure Unrotated (logger : LoggerAuthorization) : Prop where
  phase : logger.rotationPhase = 0
  candidate : logger.candidate = .empty
  version : logger.rotationVersion = 0
  nonce : logger.rotationNonce = .empty
  appliedVersion : logger.appliedRotationVersion = 0
  appliedNonce : logger.appliedRotationNonce = .empty

def endpoint (config : UploadConfig) : ArduinoString :=
  config.mqttHost ++ .of ":" ++ .of (toString config.mqttPort.toNat)

/-- The save of an acknowledged credential binds the record to the configured origin. -/
def Save.binds (save : Save) : Prop := save.self.storedOrigin = save.self.origin

namespace Board

def Unbound (before after : Board) : (op : AuthOp) → Network.Reply op → Prop
  | .saveRecord save, saved => save.binds → saved = false ∧ after.record = before.record
  | _, _ => True

/-- The device, where no save that binds the record reaches it. -/
def visited : Model Network Board where
  step before op reply after := before.Step op reply after ∧ before.Unbound after op reply
  torn before op after := before.Torn op after ∧
    ∀ save, op = .saveRecord save → save.binds → after.record = before.record

end Board

/-- Telemetry reports a result only for a request that had a bearer. -/
def Operation.reports : Operation → Bool
  | .stageRotation _ | .stageDesired _ | .statusResult _ | .finishRotationFallback true => true
  | .requestAuthorization | .loop | .beginRotationFallback | .finishRotationFallback false | .factoryReset =>
    false

structure Visiting (logger : LoggerAuthorization) (operation : Operation) : Prop where
  sent : operation.reports = true → ∃ statusRequest, logger.bearer statusRequest ≠ .empty
  kept : operation ≠ .factoryReset

/-- Boots under other origins than the record's, operations in any order, power lost anywhere. The
flag tells whether a save reached the record. -/
inductive Visit (mac : UInt64) (home : Save) : Option LoggerAuthorization → Bool → Board → Prop
  | start : Visit mac home none false { record := some home.record }
  | begin {memory : Option LoggerAuthorization} {saved : Bool} {board last : Board}
      {answer : Bool × LoggerAuthorization} (earlier : Visit mac home memory saved board)
      {config : UploadConfig} (away : endpoint config ≠ home.self.storedOrigin)
      (run : Board.visited.Runs (begin mac config) { board with inFlight := false } answer last) :
      Visit mac home (some answer.2) saved last
  | beginCut {memory : Option LoggerAuthorization} {saved : Bool} {board last : Board}
      (earlier : Visit mac home memory saved board) {config : UploadConfig}
      (away : endpoint config ≠ home.self.storedOrigin)
      (cut : Board.visited.Cut (begin mac config) { board with inFlight := false } last) :
      Visit mac home none saved last
  | run {logger next : LoggerAuthorization} {saved writes : Bool} {board last : Board}
      (earlier : Visit mac home (some logger) saved board) {operation : Operation}
      (fits : Visiting logger operation) (run : Board.visited.Runs (operation.run logger) board next last)
      (written : writes = false ↔ last.record = board.record) :
      Visit mac home (some next) (saved || writes) last
  | cut {logger : LoggerAuthorization} {saved writes : Bool} {board last : Board}
      (earlier : Visit mac home (some logger) saved board) {operation : Operation}
      (fits : Visiting logger operation) (cut : Board.visited.Cut (operation.run logger) board last)
      (written : writes = false ↔ last.record = board.record) :
      Visit mac home none (saved || writes) last

variable {mac : UInt64} {home : Save} {logger next : LoggerAuthorization} {board last : Board} {α β : Type}

section Keeps

/-- A save under another origin: it carries the credential and knows no rotation. -/
structure Carried (home save : Save) : Prop where
  token : save.token = home.token
  device : save.deviceId = home.deviceId
  origin : save.self.storedOrigin = home.self.storedOrigin
  unrotated : Unrotated save.self

def Moved (home : Save) (before after : Board) : Prop :=
  after.record = before.record ∨ ∃ save, Carried home save ∧ after.record = some save.record

theorem Moved.refl : Moved home board board := .inl rfl

theorem Moved.trans {middle : Board} (first : Moved home board middle) (second : Moved home middle last) :
    Moved home board last := by
  rcases second with same | carried
  · exact first.imp same.trans fun ⟨save, carried, found⟩ => ⟨save, carried, same.trans found⟩
  · exact .inr carried

def Keeps (home : Save) (program : Auth α) (post : α → Prop) : Prop :=
  ∀ board, Board.visited.wp program (fun value last => post value ∧ Moved home board last) (Moved home board) board

theorem keeps_pure {value : α} {post : α → Prop} (holds : post value) : Keeps home (pure value) post :=
  fun _ => ⟨.refl, holds, .refl⟩

theorem keeps_then {program : Auth α} {rest : α → Auth β} {first : α → Prop} {post : β → Prop}
    (keeps : Keeps home program first) (next : ∀ value, first value → Keeps home (rest value) post) :
    Keeps home (program >>= rest) post := by
  intro board
  refine Model.wp_then (keeps board) (fun _ moved => moved) ?_
  rintro value middle ⟨holds, moved⟩
  apply Model.wp_mono (next value holds middle)
  · rintro value last ⟨posted, later⟩
    exact ⟨posted, moved.trans later⟩
  · intro last later
    exact moved.trans later

def AuthOp.writes : AuthOp → Bool
  | .putRecord _ | .saveRecord _ => true
  | _ => false

theorem Board.Step.record {op : AuthOp} {reply : Network.Reply op} (step : board.Step op reply last)
    (reads : op.writes = false) : last.record = board.record := by
  cases op with
  | putRecord | saveRecord => cases reads
  | random | connected | millis | time | openStore | startWorker | cancelPending =>
    obtain rfl : last = board := step
    rfl
  | getRecord | result => rw [step.1]
  | release =>
    obtain rfl : last = { board with inFlight := false } := step
    rfl
  | submit request =>
    simp only [Board.Step] at step
    split at step
    · rw [step.2]
    · rw [step]

theorem Board.Torn.record {op : AuthOp} (torn : board.Torn op last) (reads : op.writes = false) :
    last.record = board.record := by
  cases op with
  | putRecord | saveRecord => cases reads
  | random | connected | millis | time | openStore | startWorker | cancelPending | getRecord | result | release
  | submit =>
    obtain rfl : last = board := torn
    rfl

theorem keeps_ask {op : AuthOp} (reads : op.writes = false) : Keeps home (ask op) fun _ => True :=
  fun _ => ⟨.refl, fun _ torn => .inl (torn.1.record reads), fun _ _ step =>
    ⟨.inl (step.1.record reads), trivial, .inl (step.1.record reads)⟩⟩

theorem keeps_save {token device : ArduinoString} {version : UInt32}
    (carried : ¬Save.binds ⟨logger, token, device, version⟩ → Carried home ⟨logger, token, device, version⟩) :
    Keeps home (logger.saveRecord token device version) fun (saved : Bool) =>
      saved = true → ¬Save.binds ⟨logger, token, device, version⟩ := by
  intro board
  by_cases binds : Save.binds ⟨logger, token, device, version⟩
  · refine ⟨.refl, fun last torn => .inl (torn.2 _ rfl binds), fun saved last step => ?_⟩
    obtain ⟨refused, same⟩ := step.2 binds
    exact ⟨.inl same, fun wrote => absurd (refused.symm.trans wrote) Bool.false_ne_true, .inl same⟩
  · refine ⟨.refl, ?_, fun saved last step => ?_⟩
    · rintro last ⟨rfl | rfl, -⟩
      · exact .refl
      · exact .inr ⟨_, carried binds, rfl⟩
    · have moved : Moved home board last := by
        rcases step.1.1 with put | ⟨-, left⟩
        · exact .inr ⟨_, carried binds, put⟩
        · exact .inl left
      exact ⟨moved, fun _ => binds, moved⟩

end Keeps

/-- A logger that loaded the record of another origin. -/
structure Visitor (home : Save) (logger : LoggerAuthorization) : Prop extends Unrotated logger where
  origin : logger.storedOrigin = home.self.storedOrigin
  token : logger.storedToken = home.token
  device : logger.storedDeviceId = home.deviceId
  away : logger.origin ≠ home.self.storedOrigin
  configured : logger.config.appDeviceToken = .empty

section Operations

/-- Every request that saves nothing and leaves the fields of a visitor is followed by the rest. -/
theorem keeps_asking {op : AuthOp} {rest : Network.Reply op → Auth β} {post : β → Prop}
    (reads : op.writes = false) (next : ∀ reply, Keeps home (rest reply) post) :
    Keeps home (ask op >>= rest) post :=
  keeps_then (keeps_ask reads) fun reply _ => next reply

theorem Visitor.saveStored (visitor : Visitor home logger) {rest : Bool → Auth β} {post : β → Prop}
    (next : ∀ saved, Keeps home (rest saved) post) : Keeps home (logger.saveStored >>= rest) post := by
  apply keeps_then (keeps_save fun _ => ?_) fun saved _ => next saved
  exact ⟨visitor.token, visitor.device, visitor.origin, visitor.toUnrotated⟩

theorem Visitor.send (visitor : Visitor home logger) (start ack verify : Bool) :
    Keeps home (logger.send start ack verify) fun answer => Visitor home answer.2 := by
  rw [LoggerAuthorization.send]
  apply keeps_asking rfl
  intro connected
  split
  · exact keeps_pure { visitor with }
  · apply keeps_asking rfl
    intro taken
    split
    · exact keeps_pure { visitor with }
    · apply keeps_asking rfl
      intro now
      exact keeps_pure { visitor with }

theorem Visitor.sendStart (visitor : Visitor home logger) : Keeps home logger.sendStart (Visitor home) := by
  rw [LoggerAuthorization.sendStart]
  apply keeps_then (visitor.send true false false)
  rintro ⟨sent, sender⟩ visitor
  cases sent with
  | true => exact keeps_pure { visitor with }
  | false => exact keeps_pure visitor

theorem keeps_expiresIn : Keeps home logger.expiresIn fun _ => True := by
  rw [expiresIn]
  split
  · exact keeps_pure trivial
  · apply keeps_asking rfl
    intro now
    exact keeps_pure trivial

theorem keeps_approvalOpen : Keeps home logger.approvalOpen fun _ => True := by
  rw [approvalOpen]
  split
  · exact keeps_then keeps_expiresIn fun _ _ => keeps_pure trivial
  · exact keeps_pure trivial

theorem keeps_challengeEpoch {expiresMs : UInt32} : Keeps home (challengeEpoch expiresMs) fun _ => True := by
  rw [challengeEpoch]
  apply keeps_asking rfl
  intro now
  split
  · exact keeps_pure trivial
  · apply keeps_asking rfl
    intro now
    exact keeps_pure trivial

theorem Visitor.requestAuthorization (visitor : Visitor home logger) :
    Keeps home logger.requestAuthorization fun answer => Visitor home answer.2 := by
  rw [LoggerAuthorization.requestAuthorization]
  split
  · exact keeps_pure { visitor with }
  · split
    · exact keeps_pure { visitor with }
    · split
      · exact keeps_pure visitor
      · apply keeps_then keeps_approvalOpen
        intro waiting _
        split
        · exact keeps_pure visitor
        · have starting : Visitor home { logger with
              authorizationId := .empty, deviceCode := .empty, userCode := .empty, error := ""
              status := .requestingCode, startPending := true } := { visitor with }
          exact keeps_then starting.sendStart fun next visitor => keeps_pure visitor

theorem Visitor.refused (visitor : Visitor home logger) (code : Int) :
    Keeps home (logger.refused code) (Visitor home) := by
  have cleared (status : Status) : Visitor home { logger with
      status, error := "Authorization expired, denied or proof rejected"
      deviceCode := .empty, userCode := .empty, authorizationId := .empty, ackPending := false
      bootstrapToken := .empty, bootstrapDeviceId := .empty, bootstrapVersion := 0
      verifyPending := false } := { visitor with }
  rw [LoggerAuthorization.refused]
  apply (cleared _).saveStored
  intro saved
  exact keeps_pure (cleared _)

theorem Visitor.acknowledged (visitor : Visitor home logger) :
    Keeps home logger.acknowledged (Visitor home) := by
  rw [LoggerAuthorization.acknowledged]
  apply keeps_then
  · apply keeps_save
    intro unbound
    exact (unbound rfl).elim
  · intro saved bound
    cases saved with
    | true => exact (bound rfl rfl).elim
    | false => exact keeps_pure { visitor with }

theorem Visitor.challenged (visitor : Visitor home logger) (doc : Members) :
    Keeps home (logger.challenged doc) (Visitor home) := by
  rw [LoggerAuthorization.challenged]
  split
  · exact keeps_pure { visitor with }
  · apply keeps_asking rfl
    intro startedMs
    apply keeps_then keeps_challengeEpoch
    intro expiresEpoch _
    apply Visitor.saveStored
    · exact { visitor with }
    · intro saved
      split
      · exact keeps_pure { visitor with }
      · exact keeps_pure { visitor with }

theorem Visitor.issued (visitor : Visitor home logger) (doc : Members) :
    Keeps home (logger.issued doc) (Visitor home) := by
  rw [LoggerAuthorization.issued]
  split
  · exact keeps_pure { visitor with }
  · apply Visitor.saveStored
    · exact { visitor with }
    · intro saved
      split
      · exact keeps_pure { visitor with }
      · exact keeps_pure { visitor with }

theorem Visitor.acceptDocument (visitor : Visitor home logger) (code : Int) (doc : Members) (start ack : Bool) :
    Keeps home (logger.acceptDocument code doc start ack) (Visitor home) := by
  rw [LoggerAuthorization.acceptDocument]
  split
  · exact visitor.acknowledged
  · split
    · exact visitor.challenged doc
    · split
      · exact keeps_pure { visitor with }
      · split
        · exact visitor.issued doc
        · exact keeps_pure { visitor with }

theorem Visitor.acceptPlain (visitor : Visitor home logger) (code : Int) (body : Text) (start ack : Bool) :
    Keeps home (logger.acceptPlain code body start ack) (Visitor home) := by
  unfold LoggerAuthorization.acceptPlain
  split
  · exact keeps_pure { visitor with }
  · split
    · exact keeps_pure { visitor with }
    · split
      · exact keeps_pure { visitor with }
      · split
        · exact visitor.refused code
        · split
          · exact visitor.acceptDocument code _ start ack
          · exact keeps_pure { visitor with }

theorem Visitor.accept (visitor : Visitor home logger) (code : Int) (body : Text) (start ack verify : Bool) :
    Keeps home (logger.accept code body start ack verify) (Visitor home) := by
  have checked : Visitor home { logger with verifyPending := false } := { visitor with }
  unfold LoggerAuthorization.accept
  split
  · split
    · exact keeps_pure { visitor with }
    · split
      · exact checked.acceptPlain _ _ _ _
      · exact checked.acceptPlain _ _ _ _
  · exact visitor.acceptPlain code body start ack

theorem Visitor.takeResult (visitor : Visitor home logger) : Keeps home logger.takeResult (Visitor home) := by
  rw [LoggerAuthorization.takeResult]
  apply keeps_asking rfl
  intro answer
  split
  · exact keeps_pure visitor
  · have idle : Visitor home { logger with busy := false } := { visitor with }
    apply keeps_then (idle.accept _ _ _ _ _)
    intro next visitor
    apply keeps_asking rfl
    intro released
    split
    · exact keeps_pure { visitor with }
    · exact keeps_pure visitor

theorem Visitor.sent (visitor : Visitor home logger) (start ack verify : Bool) :
    Keeps home (do return (← logger.send start ack verify).2) (Visitor home) :=
  keeps_then (visitor.send start ack verify) fun _ visitor => keeps_pure visitor

theorem Visitor.retryAcknowledgement (visitor : Visitor home logger) :
    Keeps home logger.retryAcknowledgement (Visitor home) := by
  rw [LoggerAuthorization.retryAcknowledgement]
  split
  · exact keeps_pure visitor
  · apply keeps_asking rfl
    intro now
    split
    · exact keeps_pure visitor
    · exact visitor.sent _ _ _

theorem Visitor.pollApproval (visitor : Visitor home logger) : Keeps home logger.pollApproval (Visitor home) := by
  rw [LoggerAuthorization.pollApproval]
  split
  · exact keeps_pure visitor
  · apply keeps_then keeps_expiresIn
    intro seconds _
    split
    · apply keeps_asking rfl
      intro cancelled
      apply Visitor.saveStored
      · exact { visitor with }
      · intro saved
        exact keeps_pure { visitor with }
    · apply keeps_asking rfl
      intro now
      split
      · exact keeps_pure visitor
      · exact visitor.sent _ _ _

theorem Visitor.loop (visitor : Visitor home logger) : Keeps home logger.loop (Visitor home) := by
  have rest {started : LoggerAuthorization} (visitor : Visitor home started) :
      Keeps home (do
        let next ← started.takeResult
        let next ← next.retryAcknowledgement
        next.pollApproval) (Visitor home) := by
    apply keeps_then visitor.takeResult
    intro taken visitor
    apply keeps_then visitor.retryAcknowledgement
    intro retried visitor
    exact visitor.pollApproval
  rw [LoggerAuthorization.loop]
  split
  · exact keeps_pure visitor
  · split
    · exact keeps_then visitor.sendStart fun started visitor => rest visitor
    · exact rest visitor

/-- A logger of a visit: without a bearer, and a visitor once it began. -/
structure Away (home : Save) (logger : LoggerAuthorization) : Prop where
  configured : logger.config.appDeviceToken = .empty
  phase : logger.rotationPhase = 0
  visitor : logger.ready = true → Visitor home logger

theorem Visitor.elsewhere (visitor : Visitor home logger) : Away home logger :=
  ⟨visitor.configured, visitor.phase, fun _ => visitor⟩

theorem Away.bearer (away : Away home logger) (statusRequest : Bool) : logger.bearer statusRequest = .empty := by
  simp [LoggerAuthorization.bearer, away.phase, away.configured]

theorem Away.silent (away : Away home logger) {operation : Operation} (visiting : Visiting logger operation) :
    operation.reports = false := by
  apply eq_false_of_ne_true
  intro reports
  obtain ⟨statusRequest, sent⟩ := visiting.sent reports
  exact sent (away.bearer statusRequest)

theorem Away.operation (away : Away home logger) {operation : Operation} (visiting : Visiting logger operation) :
    Keeps home (operation.run logger) (Away home) := by
  have silent := away.silent visiting
  have fallback (fallback : Bool) : Away home { logger with fallback } :=
    ⟨away.configured, away.phase, fun ready => { away.visitor ready with }⟩
  cases operation with
  | requestAuthorization =>
    cases ready : logger.ready with
    | true => exact keeps_then (away.visitor ready).requestAuthorization fun _ visitor => keeps_pure visitor.elsewhere
    | false =>
      have refused : Away home (logger.failed "Authorization is busy or unavailable") :=
        ⟨away.configured, away.phase, fun began => absurd (ready.symm.trans began) Bool.false_ne_true⟩
      simp only [Operation.run, requestAuthorization, ready, Bool.not_false, Bool.true_or, if_true,
        Prog.pure_bind_eq]
      exact keeps_pure refused
  | loop =>
    cases ready : logger.ready with
    | true =>
      have keeps := keeps_then (away.visitor ready).loop fun _ visitor => keeps_pure visitor.elsewhere
      rwa [Prog.bind_pure_eq] at keeps
    | false =>
      simp only [Operation.run, loop, ready, Bool.not_false, if_true]
      exact keeps_pure away
  | stageRotation | stageDesired | statusResult => cases silent
  | beginRotationFallback => exact keeps_pure (fallback true)
  | finishRotationFallback oldAccepted =>
    cases oldAccepted with
    | true => cases silent
    | false => exact keeps_pure (fallback false)
  | factoryReset => exact absurd rfl visiting.kept

end Operations

section Begin

variable {record : Members} {config : UploadConfig}

def starting (mac : UInt64) (config : UploadConfig) (csrf : List Char) : LoggerAuthorization where
  config := { config with appDeviceToken := .empty }
  hardwareId := DeviceAuthorizationPolicy.hardwareId mac
  origin := endpoint config
  csrf := .cut csrf

/-- The store or the worker is missing, or the record decides what begin returns. -/
inductive Begun (first : LoggerAuthorization) (record : Members) : Bool × LoggerAuthorization → Prop
  | unopened : Begun first record (false, first.failed "Credential storage unavailable")
  | invalid (refused : (first.restoreRecord (some (.object record))).1 = false) :
      Begun first record (false, (first.restoreRecord (some (.object record))).2)
  | unstarted : Begun first record
      (false, (first.restoreRecord (some (.object record))).2.failed "HTTPS worker unavailable")
  | ready (accepted : (first.restoreRecord (some (.object record))).1 = true) (status : Status)
      (startedMs expiresMs : UInt32) : Begun first record
        (true, { (first.restoreRecord (some (.object record))).2 with
          ready := true, status, startedMs, expiresMs })

theorem wp_restored_begun :
    Board.device.wp (logger.restored (some (.object record)))
      (fun answer after => Begun logger record answer ∧ after = board) (fun after => after = board) board := by
  have workerless := @Begun.unstarted logger record
  have invalid := @Begun.invalid logger record
  have ready := @Begun.ready logger record
  unfold LoggerAuthorization.restored
  generalize logger.restoreRecord (some (.object record)) = loaded at workerless invalid ready ⊢
  obtain ⟨valid, loaded⟩ := loaded
  cases valid with
  | false => exact ⟨rfl, invalid rfl, rfl⟩
  | true =>
    refine wp_ask (fun _ _ same => same) (fun _ same => same) rfl fun (started : Bool) => ?_
    cases started with
    | false => exact ⟨rfl, workerless, rfl⟩
    | true =>
      simp only [Bool.not_true, Bool.false_eq_true, if_false]
      split
      · exact ⟨rfl, ready rfl _ _ _, rfl⟩
      · refine wp_ask (fun _ _ same => same) (fun _ same => same) rfl fun now => ?_
        refine wp_ask (fun _ _ same => same) (fun _ same => same) rfl fun startedMs => ?_
        exact ⟨rfl, ready rfl _ _ _, rfl⟩

theorem wp_begin_begun (found : board.record = some record)
    (hardware : ((Json.object record).member "hardware_id").asString = DeviceAuthorizationPolicy.hardwareId mac) :
    Board.device.wp (begin mac config)
      (fun answer after => (∃ csrf, Begun (starting mac config csrf) record answer) ∧ after = board)
      (fun after => after = board) board := by
  rw [LoggerAuthorization.begin]
  refine wp_randomHex rfl fun csrf _ _ => ?_
  refine wp_ask (fun _ _ same => same) (fun _ same => same) rfl fun opened => ?_
  split
  · exact ⟨rfl, ⟨csrf, .unopened⟩, rfl⟩
  · apply Model.wp_bind.mpr
    refine ⟨rfl, fun after torn => torn, ?_⟩
    rintro saved after ⟨rfl, rfl⟩
    refine ⟨rfl, ?_⟩
    simp only [found, Option.map_some, beginSaved]
    rw [if_neg (not_not.mpr hardware)]
    apply Model.wp_mono wp_restored_begun
    · rintro answer last ⟨begun, same⟩
      exact ⟨⟨csrf, begun⟩, same⟩
    · exact fun _ same => same

end Begin

section Reading

variable {doc : Json}

def recordCredentials (doc : Json) : Credentials where
  accessToken := (doc.member "access_token").asString
  deviceId := (doc.member "device_id").asString
  rotationPhase := UInt8.ofInt ((doc.member "rotation_phase").int?.getD 0)
  candidate := (doc.member "candidate").asString
  rotationVersion := (doc.member "rotation_version").uint?.getD 0
  rotationNonce := (doc.member "rotation_nonce").asString
  appliedRotationVersion := (doc.member "applied_rotation_version").uint?.getD 0
  appliedRotationNonce := (doc.member "applied_rotation_nonce").asString

theorem recordCredentials_saved {save : Save} (token : save.token ≠ .empty) :
    recordCredentials (.object save.record) = save.credentials := by
  rw [Save.record_of_token token]
  simp [recordCredentials, Save.credentials, Json.member, Save.members, Members.get, Members.find?,
    Save.uint8_of_int]

theorem restorePending_credentials : (logger.restorePending doc).2.credentials = logger.credentials := by
  unfold restorePending
  dsimp only
  split
  · rfl
  · rfl

theorem restoreConfig_credentials : (logger.restoreConfig doc).credentials = logger.credentials := by
  rw [restoreConfig]
  split
  · rfl
  · rfl

theorem restoreCredential_credentials (accepted : (logger.restoreCredential doc).1 = true) :
    (logger.restoreCredential doc).2.credentials = recordCredentials doc := by
  unfold restoreCredential at accepted ⊢
  dsimp only at accepted ⊢
  split at accepted
  · cases accepted
  · next valid =>
    rw [if_neg valid]
    split at accepted
    · cases accepted
    · next coherent =>
      rw [if_neg coherent]
      rfl

theorem restoreRecord_own (own : (doc.member "origin").asString = logger.origin)
    (accepted : (logger.restoreRecord (some doc)).1 = true) :
    (logger.restoreRecord (some doc)).2.credentials = recordCredentials doc := by
  have owner {read : LoggerAuthorization} (own : read.storedOrigin = read.origin)
      (accepted : (read.restoreOwner doc).1 = true) :
      (read.restoreOwner doc).2.credentials = recordCredentials doc := by
    have loaded := @restoreCredential_credentials read doc
    unfold restoreOwner at accepted ⊢
    rw [if_pos own] at accepted ⊢
    generalize read.restoreCredential doc = credential at accepted loaded ⊢
    obtain ⟨valid, credential⟩ := credential
    cases valid with
    | false => cases accepted
    | true =>
      simp only [Bool.not_true, Bool.false_eq_true, if_false] at accepted ⊢
      have asked : (if (doc.member "pending_origin").asString = credential.origin then
          credential.restorePending doc else (true, credential)).2.credentials = credential.credentials := by
        split
        · exact restorePending_credentials
        · rfl
      generalize (if (doc.member "pending_origin").asString = credential.origin then
        credential.restorePending doc else (true, credential)) = pending at accepted asked ⊢
      obtain ⟨valid, pending⟩ := pending
      cases valid with
      | false => cases accepted
      | true => exact restoreConfig_credentials.trans (asked.trans (loaded rfl))
  unfold restoreRecord at accepted ⊢
  dsimp only at accepted ⊢
  split at accepted
  · cases accepted
  · next hardware =>
    rw [if_neg hardware]
    split at accepted
    · cases accepted
    · next installation =>
      rw [if_neg installation]
      exact owner own accepted

theorem Visitor.restorePending (visitor : Visitor home logger) : Visitor home (logger.restorePending doc).2 := by
  unfold LoggerAuthorization.restorePending
  dsimp only
  split
  · exact { visitor with }
  · exact { visitor with }

theorem Visitor.restoreConfig (visitor : Visitor home logger) (active : logger.activeToken = .empty) :
    Visitor home (logger.restoreConfig doc) := by
  rw [LoggerAuthorization.restoreConfig]
  split
  · exact { visitor with configured := active }
  · exact visitor

structure Bound (home : Save) (record : Members) : Prop where
  origin : ((Json.object record).member "origin").asString = home.self.storedOrigin
  token : ((Json.object record).member "access_token").asString = home.token
  device : ((Json.object record).member "device_id").asString = home.deviceId

theorem restoreRecord_visitor {record : Members} (bound : Bound home record) (unrotated : Unrotated logger)
    (away : logger.origin ≠ home.self.storedOrigin)
    (accepted : (logger.restoreRecord (some (.object record))).1 = true) :
    Visitor home (logger.restoreRecord (some (.object record))).2 := by
  have owner {read : LoggerAuthorization} (visitor : Visitor home read) (active : read.activeToken = .empty)
      (accepted : (read.restoreOwner (.object record)).1 = true) :
      Visitor home (read.restoreOwner (.object record)).2 := by
    have foreign : read.storedOrigin ≠ read.origin := fun same => visitor.away (same.symm.trans visitor.origin)
    unfold restoreOwner at accepted ⊢
    rw [if_neg foreign] at accepted ⊢
    simp only [Bool.not_true, Bool.false_eq_true, if_false] at accepted ⊢
    by_cases asked : ((Json.object record).member "pending_origin").asString = read.origin
    · have pending : Visitor home (read.restorePending (.object record)).2 := visitor.restorePending
      have pendingActive : (read.restorePending (.object record)).2.activeToken = .empty := by
        unfold LoggerAuthorization.restorePending
        dsimp only
        split
        · exact active
        · exact active
      rw [if_pos asked] at accepted ⊢
      split at accepted
      · cases accepted
      · next valid =>
        rw [if_neg valid]
        exact pending.restoreConfig pendingActive
    · rw [if_neg asked]
      exact visitor.restoreConfig active
  unfold restoreRecord at accepted ⊢
  dsimp only at accepted ⊢
  split at accepted
  · cases accepted
  · next hardware =>
    rw [if_neg hardware]
    split at accepted
    · cases accepted
    · next installation =>
      rw [if_neg installation]
      refine owner ?_ rfl accepted
      exact ⟨{ unrotated with phase := rfl, candidate := rfl }, bound.origin, bound.token, bound.device, away, rfl⟩

end Reading

section Visits

variable {config : UploadConfig} {memory : Option LoggerAuthorization} {saved writes : Bool}

theorem runs_visited {program : Auth α} {value : α} (run : Board.visited.Runs program board value last) :
    Board.device.Runs program board value last := by
  induction run with
  | done value board => exact .done _ _
  | call step rest ih => exact .call step.1 ih

theorem cut_visited {program : Auth α} (cut : Board.visited.Cut program board last) :
    Board.device.Cut program board last := by
  induction cut with
  | here program board => exact .here _ _
  | inside torn => exact .inside torn.1
  | call step rest ih => exact .call step.1 ih

theorem bound_of_carried {save : Save} (token : home.token ≠ .empty) (carries : save.token = home.token)
    (device : save.deviceId = home.deviceId) (origin : save.self.storedOrigin = home.self.storedOrigin) :
    Bound home save.record := by
  rw [Save.record_of_token (by rwa [carries])]
  constructor <;> simp [Json.member, Save.members, Members.get, Members.find?, carries, device, origin]

theorem Begun.away {record : Members} {csrf : List Char} {answer : Bool × LoggerAuthorization}
    (begun : Begun (starting mac config csrf) record answer) (bound : Bound home record)
    (away : endpoint config ≠ home.self.storedOrigin) : Away home answer.2 := by
  have bare : Bare ((starting mac config csrf).restoreRecord (some (.object record))).2 := by
    apply restoreRecord_foreign
    rw [bound.origin]
    exact away.symm
  have unready := (restoreRecord_unbegun (starting mac config csrf) (some (.object record))).ready
  have off (began : ((starting mac config csrf).restoreRecord (some (.object record))).2.ready = true) : False :=
    Bool.false_ne_true (unready.symm.trans began)
  cases begun with
  | unopened => exact ⟨rfl, rfl, nofun⟩
  | invalid refused => exact ⟨bare.configured, bare.phase, fun began => (off began).elim⟩
  | unstarted => exact ⟨bare.configured, bare.phase, fun began => (off began).elim⟩
  | ready accepted status startedMs expiresMs =>
    have visitor := restoreRecord_visitor bound ⟨rfl, rfl, rfl, rfl, rfl, rfl⟩ away accepted
    exact Visitor.elsewhere { visitor with }

/-- The record of home as long as no save reached it, then a carried one. -/
def Recorded (home : Save) (saved : Bool) (board : Board) : Prop :=
  (saved = false ∧ board.record = some home.record) ∨
    saved = true ∧ ∃ save, Carried home save ∧ board.record = some save.record

/-- What a visit keeps of the record and of the logger above it. -/
structure Visited (mac : UInt64) (home : Save) (memory : Option LoggerAuthorization) (saved : Bool)
    (board : Board) : Prop where
  kept : Kept mac board
  held : ∀ logger, memory = some logger → Held mac logger board
  away : ∀ logger, memory = some logger → Away home logger
  record : Recorded home saved board

theorem Visited.off (kept : Kept mac board) (record : Recorded home saved board) :
    Visited mac home none saved board :=
  ⟨kept, fun _ off => (by cases off), fun _ off => (by cases off), record⟩

theorem Visited.on (held : Held mac logger board) (away : Away home logger) (record : Recorded home saved board) :
    Visited mac home (some logger) saved board := by
  refine ⟨held.kept, fun running same => ?_, fun running same => ?_, record⟩
  · obtain rfl := Option.some.inj same
    exact held
  · obtain rfl := Option.some.inj same
    exact away

theorem Visited.found (visited : Visited mac home memory saved board) (token : home.token ≠ .empty) :
    ∃ record, board.record = some record ∧ Bound home record := by
  rcases visited.record with ⟨-, found⟩ | ⟨-, save, carried, found⟩
  · exact ⟨_, found, bound_of_carried token rfl rfl rfl⟩
  · exact ⟨_, found, bound_of_carried token carried.token carried.device carried.origin⟩

theorem Visited.moved (visited : Visited mac home memory saved board) (moved : Moved home board last)
    (written : writes = false ↔ last.record = board.record) : Recorded home (saved || writes) last := by
  unfold Recorded
  cases writes with
  | false =>
    rw [Bool.or_false, written.mp rfl]
    exact visited.record
  | true =>
    have changed : last.record ≠ board.record := fun same => Bool.false_ne_true (written.mpr same).symm
    rw [Bool.or_true]
    exact .inr ⟨rfl, moved.resolve_left changed⟩

theorem visited_of_visit (savable : Savable mac home) (origin : home.self.storedOrigin ≠ missing)
    (visit : Visit mac home memory saved board) : Visited mac home memory saved board := by
  have token : home.token ≠ .empty := printable_ne_empty (savable.credential origin).1 (by decide)
  -- on the visit; a cut leaves what the record says, and a boot reads it back
  induction visit with
  | start =>
    refine Visited.off ⟨fun record found => ?_, fun _ none => (by cases none)⟩ (.inl ⟨rfl, rfl⟩)
    obtain rfl := Option.some.inj found
    exact .saved savable
  | @begin memory saved board last answer earlier config away run ih =>
    obtain ⟨record, found, bound⟩ := ih.found token
    have hardware := written_hardware (ih.kept.record record found)
    have held := Model.wp_runs (wp_begin config ih.kept.rebooted rfl) (runs_visited run)
    have begun := @wp_begin_begun mac { board with inFlight := false } record config found hardware
    obtain ⟨⟨csrf, begun⟩, same⟩ := Model.wp_runs begun (runs_visited run)
    apply Visited.on held (begun.away bound away)
    rw [same]
    exact ih.record
  | @beginCut memory saved board last earlier config away cut ih =>
    obtain ⟨record, found, bound⟩ := ih.found token
    have hardware := written_hardware (ih.kept.record record found)
    have kept := Model.wp_cut (wp_begin config ih.kept.rebooted rfl) (cut_visited cut)
    have begun := @wp_begin_begun mac { board with inFlight := false } record config found hardware
    have same := Model.wp_cut begun (cut_visited cut)
    apply Visited.off kept
    rw [same]
    exact ih.record
  | @run logger next saved writes board last earlier operation fits run written ih =>
    have away := ih.away logger rfl
    have reports : Reports logger operation := by
      intro accepted
      have silent := away.silent fits
      rw [accepted] at silent
      cases silent
    have held := Model.wp_runs (wp_operation (ih.held logger rfl) reports) (runs_visited run)
    obtain ⟨elsewhere, moved⟩ := Model.wp_runs (away.operation fits board) run
    exact Visited.on held elsewhere (ih.moved moved written)
  | @cut logger saved writes board last earlier operation fits cut written ih =>
    have away := ih.away logger rfl
    have reports : Reports logger operation := by
      intro accepted
      have silent := away.silent fits
      rw [accepted] at silent
      cases silent
    have kept := Model.wp_cut (wp_operation (ih.held logger rfl) reports) (cut_visited cut)
    have moved := Model.wp_cut (away.operation fits board) cut
    exact Visited.off kept (ih.moved moved written)

theorem unrotated_credentials {save : Save} (carried : Carried home save) :
    save.credentials = home.credentials ↔ Unrotated home.self := by
  obtain ⟨token, device, -, unrotated⟩ := carried
  obtain ⟨phase, candidate, version, nonce, appliedVersion, appliedNonce⟩ := unrotated
  simp only [Save.credentials, token, device, phase, candidate, version, nonce, appliedVersion, appliedNonce,
    Credentials.mk.injEq, true_and]
  constructor
  · rintro ⟨phase, candidate, version, nonce, appliedVersion, appliedNonce⟩
    exact ⟨phase.symm, candidate.symm, version.symm, nonce.symm, appliedVersion.symm, appliedNonce.symm⟩
  · rintro ⟨phase, candidate, version, nonce, appliedVersion, appliedNonce⟩
    exact ⟨phase.symm, candidate.symm, version.symm, nonce.symm, appliedVersion.symm, appliedNonce.symm⟩

/-- A later begin at home fails only for its store or its worker, and it restores the credentials
exactly when there was no rotation to lose or no save of the visit reached the record. -/
theorem visit_restores_iff (mac : UInt64) (home : Save) (savable : Savable mac home) (config : UploadConfig)
    (own : endpoint config = home.self.storedOrigin) (memory : Option LoggerAuthorization) (saved : Bool)
    (board : Board) (visit : Visit mac home memory saved board) (answer : Bool × LoggerAuthorization)
    (last : Board) (run : Board.device.Runs (begin mac config) { board with inFlight := false } answer last) :
    (answer.2.ready = false ∧ (answer.2.error = "Credential storage unavailable" ∨
      answer.2.error = "HTTPS worker unavailable")) ∨
    (answer.2.ready = true ∧ (answer.2.credentials = home.credentials ↔ Unrotated home.self ∨ saved = false)) := by
  have origin : home.self.storedOrigin ≠ missing := own ▸ endpoint_ne_missing _ _
  have token : home.token ≠ .empty := printable_ne_empty (savable.credential origin).1 (by decide)
  have visited := visited_of_visit savable origin visit
  obtain ⟨record, found, bound⟩ := visited.found token
  have written := visited.kept.record record found
  have begun := @wp_begin_begun mac { board with inFlight := false } record config found
    (written_hardware written)
  obtain ⟨⟨csrf, begun⟩, -⟩ := Model.wp_runs begun run
  have fresh : Fresh mac (starting mac config csrf) :=
    ⟨rfl, endpoint_ne_missing _ _, ⟨rfl, rfl⟩, rfl, rfl, rfl, rfl, rfl, rfl, rfl, rfl⟩
  obtain ⟨next, restored, -⟩ := written_restored fresh written
  have accepted : ((starting mac config csrf).restoreRecord (some (.object record))).1 = true := by rw [restored]
  have unready := (restoreRecord_unbegun (starting mac config csrf) (some (.object record))).ready
  have restoredHome := restoreRecord_own (bound.origin.trans own.symm) accepted
  cases begun with
  | unopened => exact .inl ⟨rfl, .inl rfl⟩
  | invalid refused => exact absurd (refused.symm.trans accepted) Bool.false_ne_true
  | unstarted => exact .inl ⟨unready, .inr rfl⟩
  | ready _ status startedMs expiresMs =>
    refine .inr ⟨rfl, ?_⟩
    have same : ({ ((starting mac config csrf).restoreRecord (some (.object record))).2 with
        ready := true, status, startedMs, expiresMs } : LoggerAuthorization).credentials =
          recordCredentials (.object record) := restoredHome
    rw [same]
    -- the record is still the one of home, or a save has carried its credential but not its rotation
    rcases visited.record with ⟨unsaved, kept⟩ | ⟨reached, save, carried, kept⟩
    · obtain rfl := Option.some.inj (kept.symm.trans found)
      rw [recordCredentials_saved token, unsaved]
      simp
    · obtain rfl := Option.some.inj (kept.symm.trans found)
      rw [recordCredentials_saved (by rw [carried.token]; exact token), unrotated_credentials carried, reached]
      simp

end Visits

/-- The chosen answers of a visit; a save that would bind the record fails. -/
def Board.away (response : Option Answer) (board : Board) : (op : AuthOp) → Network.Reply op × Board
  | .saveRecord save =>
    if save.self.storedOrigin = save.self.origin then
      (false, { board with saves := board.saves ++ [(save, false)] })
    else board.answer true 0 response (.saveRecord save)
  | op => board.answer true 0 response op

theorem Board.step_away (response : Option Answer) (board : Board) (op : AuthOp) :
    Board.visited.step board op (board.away response op).1 (board.away response op).2 := by
  have step := Board.step_answer true 0 response board op
  cases op with
  | saveRecord save =>
    simp only [Board.away]
    split
    · exact ⟨⟨.inr ⟨rfl, rfl⟩, rfl, rfl⟩, fun _ => ⟨rfl, rfl⟩⟩
    · next other => exact ⟨step, fun binds => absurd binds other⟩
  | random | connected | millis | time | openStore | startWorker | release | cancelPending | getRecord | putRecord
  | submit | result => exact ⟨step, trivial⟩

def bootAway (config : UploadConfig) (board : Board) : Running :=
  let ran := (begin 0 config).exec (Board.away none) { board with inFlight := false }
  ⟨ran.1.2, ran.2⟩

def Running.performAway (running : Running) (response : Option Answer) (operation : Operation) : Running :=
  let ran := (operation.run running.logger).exec (Board.away response) running.board
  ⟨ran.1, ran.2⟩

def otherConfig : UploadConfig := { httpsConfig with mqttHost := .of "other.example.test" }

def challengedAway (home : Save) : Running :=
  ((bootAway otherConfig { record := some home.record }).performAway none .requestAuthorization).performAway
    (served 201 challengeBody) .loop

theorem visit_perform {running : Running} {saved : Bool}
    (earlier : Visit 0 home (some running.logger) saved running.board) (response : Option Answer)
    {operation : Operation} (silent : operation.reports = false) (kept : operation ≠ .factoryReset) :
    ∃ writes, Visit 0 home (some (running.performAway response operation).logger) (saved || writes)
      (running.performAway response operation).board ∧
      (writes = false ↔ (running.performAway response operation).board.record = running.board.record) := by
  have run := Model.runs_of_handler (Board.step_away response) (operation.run running.logger) running.board
  obtain ⟨writes, written⟩ : ∃ writes, writes = false ↔
      (running.performAway response operation).board.record = running.board.record := by
    by_cases same : (running.performAway response operation).board.record = running.board.record
    · exact ⟨false, iff_of_true rfl same⟩
    · exact ⟨true, iff_of_false nofun same⟩
  have fits : Visiting running.logger operation :=
    ⟨fun reports => absurd (silent.symm.trans reports) Bool.false_ne_true, kept⟩
  exact ⟨writes, .run earlier fits run written, written⟩

theorem visit_challengedAway (away : endpoint otherConfig ≠ home.self.storedOrigin) :
    ∃ saved, Visit 0 home (some (challengedAway home).logger) saved (challengedAway home).board ∧
      (saved = false → (challengedAway home).board.record =
        ((bootAway otherConfig { record := some home.record }).performAway none
          .requestAuthorization).board.record) := by
  have run := Model.runs_of_handler (Board.step_away none) (begin 0 otherConfig)
    { ({ record := some home.record } : Board) with inFlight := false }
  have booted : Visit 0 home (some (bootAway otherConfig { record := some home.record }).logger) false
      (bootAway otherConfig { record := some home.record }).board := by
    rw [bootAway]
    generalize (begin 0 otherConfig).exec (Board.away none)
      { ({ record := some home.record } : Board) with inFlight := false } = ran at run ⊢
    exact .begin .start away run
  obtain ⟨first, started, -⟩ := @visit_perform home _ _ booted none .requestAuthorization rfl nofun
  obtain ⟨second, challenged, written⟩ := @visit_perform home _ _ started (served 201 challengeBody) .loop rfl nofun
  refine ⟨_, challenged, fun unsaved => ?_⟩
  rw [Bool.or_eq_false_iff] at unsaved
  exact written.mp unsaved.2

theorem savable_lastSave {running : Running} (reached : Reached Reports 0 (some running.logger) running.board)
    (saved : running.board.saves.getLast?.map Prod.snd = some true) : Savable 0 running.lastSave :=
  (held_of_reached reached).1.saves _ (lastSave_mem saved)

theorem reached_others {logger : LoggerAuthorization} {operation : Operation}
    (other : operation ≠ .finishRotationFallback true) : Reports logger operation :=
  fun same => absurd same other

theorem reached_approved_reports : Reached Reports 0 (some approved.logger) approved.board :=
  reached_approved fun _ _ other => reached_others other

theorem boot_runs (config : UploadConfig) (board : Board) : ∃ answer last,
    Board.device.Runs (begin 0 config) { board with inFlight := false } answer last ∧
      answer.2 = (boot true config board).logger := by
  have run := Model.runs_of_handler (Board.step_answer true 0 none) (begin 0 config) { board with inFlight := false }
  rw [boot]
  generalize (begin 0 config).exec (Board.answer true 0 none) { board with inFlight := false } = ran at run ⊢
  exact ⟨_, _, run, rfl⟩

/-- The approved logger has a challenge from another server and then comes home. -/
theorem visit_restores_approved :
    (boot true httpsConfig (challengedAway approved.lastSave).board).logger.credentials =
      approved.lastSave.credentials := by
  have facts : approved.board.saves.getLast?.map Prod.snd = some true ∧
      endpoint httpsConfig = approved.lastSave.self.storedOrigin ∧
      endpoint otherConfig ≠ approved.lastSave.self.storedOrigin ∧
      (boot true httpsConfig (challengedAway approved.lastSave).board).logger.ready = true ∧
      approved.lastSave.self.rotationPhase = 0 ∧ approved.lastSave.self.candidate = .empty ∧
      approved.lastSave.self.rotationVersion = 0 ∧ approved.lastSave.self.rotationNonce = .empty ∧
      approved.lastSave.self.appliedRotationVersion = 0 ∧
      approved.lastSave.self.appliedRotationNonce = .empty := by
    decide +kernel
  obtain ⟨saved, own, away, ready, phase, candidate, version, nonce, appliedVersion, appliedNonce⟩ := facts
  obtain ⟨flag, visit, -⟩ := visit_challengedAway away
  obtain ⟨answer, last, run, same⟩ := boot_runs httpsConfig (challengedAway approved.lastSave).board
  have savable := savable_lastSave reached_approved_reports saved
  have restores := visit_restores_iff 0 approved.lastSave savable httpsConfig own _ flag _ visit answer last run
  rw [same] at restores
  rcases restores with ⟨unready, -⟩ | ⟨-, restored⟩
  · exact absurd (unready.symm.trans ready) Bool.false_ne_true
  · exact restored.mpr (.inl ⟨phase, candidate, version, nonce, appliedVersion, appliedNonce⟩)

def rotating : Running := (boot true httpsConfig approved.board).perform 0 none (.stageRotation (some rotationBody))

theorem reached_rotating : Reached Reports 0 (some rotating.logger) rotating.board := by
  have booted := reached_boot reached_approved_reports true httpsConfig
  exact reached_perform booted 0 none (.stageRotation (some rotationBody)) (reached_others nofun)

/-- A challenge that another server issues erases the rotation of the old one. -/
theorem visit_loses_rotation : Savable 0 rotating.lastSave ∧
    endpoint httpsConfig = rotating.lastSave.self.storedOrigin ∧
    (∃ saved, Visit 0 rotating.lastSave (some (challengedAway rotating.lastSave).logger) saved
      (challengedAway rotating.lastSave).board) ∧
    (boot true httpsConfig { record := some rotating.lastSave.record }).logger.credentials =
      rotating.lastSave.credentials ∧
    (boot true httpsConfig (challengedAway rotating.lastSave).board).logger.ready = true ∧
    (boot true httpsConfig (challengedAway rotating.lastSave).board).logger.credentials ≠
      rotating.lastSave.credentials := by
  have facts : rotating.board.saves.getLast?.map Prod.snd = some true ∧
      endpoint httpsConfig = rotating.lastSave.self.storedOrigin ∧
      endpoint otherConfig ≠ rotating.lastSave.self.storedOrigin ∧
      (boot true httpsConfig { record := some rotating.lastSave.record }).logger.credentials =
        rotating.lastSave.credentials ∧
      (boot true httpsConfig (challengedAway rotating.lastSave).board).logger.ready = true ∧
      (boot true httpsConfig (challengedAway rotating.lastSave).board).logger.credentials ≠
        rotating.lastSave.credentials := by
    decide +kernel
  obtain ⟨saved, own, away, before, ready, lost⟩ := facts
  obtain ⟨flag, visit, -⟩ := visit_challengedAway away
  exact ⟨savable_lastSave reached_rotating saved, own, ⟨flag, visit⟩, before, ready, lost⟩

end ApexiDevices.LoggerAuthorization
