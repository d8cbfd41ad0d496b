import ApexiDevices.Authorization.Runs

set_option autoImplicit false

/-!
# Telemetry traffic beside an open challenge
-/

namespace ApexiDevices.LoggerAuthorization

open Device DeviceAuthorizationPolicy

variable {mac : UInt64} {logger next : LoggerAuthorization} {board last : Board}
  {memory : Option LoggerAuthorization}

section Ready

abbrev StaysReady (program : Auth LoggerAuthorization) : Prop :=
  program.Returns fun next => next.ready = true

theorem send_ready (ready : logger.ready = true) (start ack verify : Bool) :
    (logger.send start ack verify).Returns fun answer => answer.2.ready = true := by
  rw [send]
  apply Prog.returns_then
  intro connected
  split
  · exact ready
  · apply Prog.returns_then
    intro taken
    split
    · exact ready
    · exact Prog.returns_then fun now => ready

theorem sendStart_ready (ready : logger.ready = true) : StaysReady logger.sendStart := by
  rw [sendStart]
  apply Prog.returns_bind.mpr
  apply (send_ready ready true false false).mono
  rintro ⟨sent, sender⟩ ready
  cases sent with
  | true => exact ready
  | false => exact ready

theorem refused_ready (ready : logger.ready = true) (code : Int) : StaysReady (logger.refused code) := by
  rw [refused]
  exact Prog.returns_then fun saved => ready

theorem acknowledged_ready (ready : logger.ready = true) : StaysReady logger.acknowledged := by
  rw [acknowledged]
  apply Prog.returns_then
  intro saved
  split
  · exact ready
  · exact ready

theorem challenged_ready (ready : logger.ready = true) (doc : Members) : StaysReady (logger.challenged doc) := by
  rw [challenged]
  split
  · exact ready
  · apply Prog.returns_then
    intro startedMs
    apply Prog.returns_then
    intro expiresEpoch
    apply Prog.returns_then
    intro saved
    split
    · exact ready
    · exact ready

theorem issued_ready (ready : logger.ready = true) (doc : Members) : StaysReady (logger.issued doc) := by
  rw [issued]
  split
  · exact ready
  · apply Prog.returns_then
    intro saved
    split
    · exact ready
    · exact ready

theorem acceptDocument_ready (ready : logger.ready = true) (code : Int) (doc : Members) (start ack : Bool) :
    StaysReady (logger.acceptDocument code doc start ack) := by
  rw [acceptDocument]
  split
  · exact acknowledged_ready ready
  · split
    · exact challenged_ready ready doc
    · split
      · exact ready
      · split
        · exact issued_ready ready doc
        · exact ready

theorem acceptPlain_ready (ready : logger.ready = true) (code : Int) (body : Text) (start ack : Bool) :
    StaysReady (logger.acceptPlain code body start ack) := by
  unfold acceptPlain
  split
  · exact ready
  · split
    · exact ready
    · split
      · exact ready
      · split
        · exact refused_ready ready code
        · split
          · exact acceptDocument_ready ready code _ start ack
          · exact ready

theorem accept_ready (ready : logger.ready = true) (code : Int) (body : Text) (start ack verify : Bool) :
    StaysReady (logger.accept code body start ack verify) := by
  have checked : { logger with verifyPending := false }.ready = true := ready
  unfold accept
  split
  · split
    · exact ready
    · split
      · exact acceptPlain_ready checked _ _ _ _
      · exact acceptPlain_ready checked _ _ _ _
  · exact acceptPlain_ready ready code body start ack

theorem takeResult_ready (ready : logger.ready = true) : StaysReady logger.takeResult := by
  rw [takeResult]
  apply Prog.returns_then
  intro answer
  split
  · exact ready
  · next answer =>
    have idle : { logger with busy := false }.ready = true := ready
    apply Prog.returns_bind.mpr
    apply (accept_ready idle answer.status answer.body _ _ _).mono
    intro next ready
    apply Prog.returns_then
    intro released
    split
    · exact ready
    · exact ready

theorem retryAcknowledgement_ready (ready : logger.ready = true) : StaysReady logger.retryAcknowledgement := by
  rw [retryAcknowledgement]
  split
  · exact ready
  · apply Prog.returns_then
    intro now
    split
    · exact ready
    · apply Prog.returns_bind.mpr
      exact send_ready ready _ _ _

theorem pollApproval_ready (ready : logger.ready = true) : StaysReady logger.pollApproval := by
  rw [pollApproval]
  split
  · exact ready
  · apply Prog.returns_then
    intro seconds
    split
    · exact Prog.returns_then fun cancelled => Prog.returns_then fun saved => ready
    · apply Prog.returns_then
      intro now
      split
      · exact ready
      · apply Prog.returns_bind.mpr
        exact send_ready ready _ _ _

theorem loop_ready (ready : logger.ready = true) : StaysReady logger.loop := by
  have rest {started : LoggerAuthorization} (ready : started.ready = true) :
      StaysReady (do
        let next ← started.takeResult
        let next ← next.retryAcknowledgement
        next.pollApproval) := by
    apply Prog.returns_bind.mpr
    apply (takeResult_ready ready).mono
    intro next ready
    rw [Prog.returns_bind]
    apply (retryAcknowledgement_ready ready).mono
    intro next ready
    exact pollApproval_ready ready
  rw [loop]
  split
  · exact ready
  · split
    · apply Prog.returns_bind.mpr
      exact (sendStart_ready ready).mono fun started ready => rest ready
    · exact rest ready

abbrev Waits (logger : LoggerAuthorization) : Prop := logger.status = .awaitingApproval → logger.ready = true

theorem restored_waits (status : logger.status = .unavailable) (saved : Text) :
    (logger.restored saved).Returns fun answer => Waits answer.2 := by
  have restored : (logger.restoreRecord saved).2.status = .unavailable :=
    (restoreRecord_unbegun logger saved).status.trans status
  have waits {logger : LoggerAuthorization} (status : logger.status = .unavailable) : Waits logger := by
    intro waiting
    rw [status] at waiting
    cases waiting
  unfold LoggerAuthorization.restored
  generalize logger.restoreRecord saved = loaded at restored ⊢
  obtain ⟨valid, loaded⟩ := loaded
  dsimp only
  split
  · exact waits restored
  · apply Prog.returns_then
    intro started
    split
    · exact waits restored
    · split
      · exact fun _ => rfl
      · apply Prog.returns_then
        intro now
        apply Prog.returns_then
        intro startedMs
        exact fun _ => rfl

-- The program is named so that its random draws are never evaluated.
theorem beginBlank_waits (status : logger.status = .unavailable) {program : Auth (Bool × LoggerAuthorization)}
    (blank : logger.beginBlank = program) : program.Returns fun answer => Waits answer.2 := by
  rw [← blank, beginBlank]
  generalize randomUuid = identifier
  generalize randomHex 32 = digits
  apply Prog.returns_then
  intro installation
  apply Prog.returns_then
  intro secret
  apply Prog.returns_then
  intro put
  split
  · intro waiting
    cases status.symm.trans waiting
  · apply restored_waits
    exact status

theorem beginSaved_waits (status : logger.status = .unavailable) (saved : Text) :
    (logger.beginSaved saved).Returns fun answer => Waits answer.2 := by
  have failed (error : String) : Waits (logger.failed error) := by
    intro waiting
    cases status.symm.trans waiting
  unfold beginSaved
  split
  · exact failed _
  · split
    · exact failed _
    · exact restored_waits status _

theorem begin_waits {mac : UInt64} {config : UploadConfig} {program : Auth (Bool × LoggerAuthorization)}
    (begins : begin mac config = program) : program.Returns fun answer => Waits answer.2 := by
  rw [← begins, begin]
  generalize randomHex 24 = digits
  apply Prog.returns_then
  intro csrf
  dsimp only
  generalize start : ({
      config := { config with appDeviceToken := .empty }
      hardwareId := DeviceAuthorizationPolicy.hardwareId mac
      origin := config.mqttHost ++ .of ":" ++ .of (toString config.mqttPort.toNat)
      csrf := .cut csrf } : LoggerAuthorization) = logger
  have status : logger.status = .unavailable := by rw [← start]
  apply Prog.returns_then
  intro opened
  split
  · intro waiting
    cases status.symm.trans waiting
  · apply Prog.returns_then
    intro saved
    split
    · exact beginSaved_waits status _
    · generalize blank : logger.beginBlank = program
      exact beginBlank_waits status blank

theorem requestAuthorization_waits (waits : Waits logger) :
    logger.requestAuthorization.Returns fun answer => Waits answer.2 := by
  rw [requestAuthorization]
  split
  · exact waits
  · next available =>
    simp only [Bool.or_eq_true, Bool.not_eq_true', not_or, Bool.not_eq_false] at available
    split
    · exact waits
    · split
      · exact waits
      · apply Prog.returns_then
        intro waiting
        split
        · exact waits
        · apply Prog.returns_bind.mpr
          apply (sendStart_ready (by exact available.1.1)).mono
          intro next ready
          exact fun _ => ready

theorem loop_waits (waits : Waits logger) : logger.loop.Returns Waits := by
  cases ready : logger.ready with
  | true => exact (loop_ready ready).mono fun next ready _ => ready
  | false =>
    simp only [loop, ready]
    exact waits

end Ready

def Operation.telemetry : Operation → Bool
  | .stageRotation _ | .stageDesired _ | .statusResult _ | .beginRotationFallback
  | .finishRotationFallback _ => true
  | .requestAuthorization | .loop | .factoryReset => false

def stages (logger : LoggerAuthorization) (rotation : Members) : Bool :=
  let version := (rotation.get "version").uint?.getD 0
  let token := (rotation.get "token").asString
  !logger.restart && validRotation rotation && version != logger.appliedRotationVersion &&
    logger.rotationPhase == 0 && !(version < logger.appliedRotationVersion || token == logger.storedToken ||
      logger.storedToken.isEmpty || logger.ackPending)

def desired (logger : LoggerAuthorization) (envelope : Members) : Option Members :=
  match envelope.find? "credential_rotation" with
  | some (.object rotation) =>
    if (envelope.get "schema_version").uint? ≠ some 1 || !(envelope.get "device_id").isString ||
        (envelope.get "device_id").asString ≠ logger.config.deviceId then
      none
    else some rotation
  | _ => none

def Operation.rewrites (logger : LoggerAuthorization) : Operation → Bool
  | .stageRotation rotation => rotation.any logger.stages
  | .stageDesired envelope => (logger.desired envelope).any logger.stages
  | .statusResult accepted =>
    !logger.restart && accepted && (logger.rotationPhase == 1 || logger.rotationPhase == 2)
  | .finishRotationFallback oldAccepted => oldAccepted
  | .beginRotationFallback | .requestAuthorization | .loop | .factoryReset => false

def Board.wrote (before after : Board) : Bool := (after.saves.drop before.saves.length).any Prod.snd

@[simp] theorem Board.wrote_self : board.wrote board = false := by simp [Board.wrote]

theorem Board.wrote_saved {save : Save} {saved : Bool} (step : board.Step (.saveRecord save) saved last) :
    board.wrote last = saved := by
  obtain ⟨-, -, saves⟩ := step
  simp [Board.wrote, saves]

structure Beside (operation : Operation) (before : LoggerAuthorization) (board : Board)
    (after : LoggerAuthorization) (last : Board) : Prop where
  frame : after = { before with
    candidate := after.candidate, rotationNonce := after.rotationNonce, rotationExpiry := after.rotationExpiry
    rotationVersion := after.rotationVersion, rotationPhase := after.rotationPhase
    appliedRotationVersion := after.appliedRotationVersion, appliedRotationNonce := after.appliedRotationNonce
    fallback := after.fallback, status := after.status, error := after.error, restart := after.restart }
  flight : last.inFlight = board.inFlight
  status : after.status = .awaitingApproval ↔
    before.status = .awaitingApproval ∧ (operation.rewrites before && board.wrote last) = false

section Telemetry

variable {operation : Operation} {α : Type} {post : α → Board → Prop}

theorem Beside.unsaved {after : LoggerAuthorization} (frame : after = { logger with
      candidate := after.candidate, rotationNonce := after.rotationNonce, rotationExpiry := after.rotationExpiry
      rotationVersion := after.rotationVersion, rotationPhase := after.rotationPhase
      appliedRotationVersion := after.appliedRotationVersion, appliedRotationNonce := after.appliedRotationNonce
      fallback := after.fallback, status := after.status, error := after.error, restart := after.restart })
    (status : after.status = .awaitingApproval ↔ logger.status = .awaitingApproval) :
    Beside operation logger board after board :=
  ⟨frame, rfl, by simp [status]⟩

theorem wp_record {token device : ArduinoString} {version : UInt32} {rest : Bool → Auth α}
    (next : ∀ saved after, after.inFlight = board.inFlight → board.wrote after = saved →
      Board.device.wp (rest saved) post (fun _ => True) after) :
    Board.device.wp (logger.saveRecord token device version >>= rest) post (fun _ => True) board := by
  apply Model.wp_bind.mpr
  refine ⟨trivial, fun _ _ => trivial, fun saved after step => ⟨trivial, ?_⟩⟩
  exact next saved after step.2.1 (Board.wrote_saved step)

theorem beside_stageRotation (rotation : Members) (rewrites : operation.rewrites logger = logger.stages rotation) :
    Board.device.wp (logger.stageRotation (some rotation))
      (fun answer last => Beside operation logger board answer.2 last) (fun _ => True) board := by
  have same : Beside operation logger board logger board := .unsaved rfl Iff.rfl
  unfold stageRotation
  split
  · exact ⟨trivial, same⟩
  · next running =>
    dsimp only
    split
    · exact ⟨trivial, same⟩
    · next valid =>
      split
      · exact ⟨trivial, same⟩
      · next fresh =>
        split
        · exact ⟨trivial, same⟩
        · next unstaged =>
          split
          · exact ⟨trivial, same⟩
          · next staging =>
            have stages : operation.rewrites logger = true := by
              rw [rewrites, LoggerAuthorization.stages]
              simp only [Bool.not_eq_true, ne_eq, Decidable.not_not, Bool.not_eq_true', Bool.not_eq_false]
                at running valid fresh unstaged staging
              simp [running, valid, fresh, unstaged, staging]
            refine wp_record fun saved after flight wrote => ?_
            cases saved with
            | false => exact ⟨trivial, rfl, flight, by simp [wrote]⟩
            | true => exact ⟨trivial, rfl, flight, by simp [wrote, stages]⟩

theorem beside_stageDesired (envelope : Members) :
    Board.device.wp (logger.stageDesired envelope)
      (fun answer last => Beside (.stageDesired envelope) logger board answer.2 last) (fun _ => True) board := by
  have same : Beside (.stageDesired envelope) logger board logger board := .unsaved rfl Iff.rfl
  unfold stageDesired
  split
  · exact ⟨trivial, same⟩
  · next rotation found =>
    split
    · exact ⟨trivial, same⟩
    · next envelopes =>
      split
      · next rotation =>
        have desires : logger.desired envelope = some rotation := by
          rw [desired, found]
          exact if_neg envelopes
        apply beside_stageRotation
        rw [Operation.rewrites, desires]
        rfl
      · exact ⟨trivial, same⟩

theorem beside_statusResult (challenge : logger.status = .awaitingApproval → logger.authorizationId ≠ .empty)
    (accepted : Bool) :
    Board.device.wp (logger.statusResult accepted)
      (fun next last => Beside (.statusResult accepted) logger board next last) (fun _ => True) board := by
  have same : Beside (.statusResult accepted) logger board logger board := .unsaved rfl Iff.rfl
  have shown {status : Status} (waits : status ≠ .awaitingApproval) (idle : logger.status ≠ .awaitingApproval) :
      Beside (.statusResult accepted) logger board { logger with status } board :=
    .unsaved rfl (iff_of_false waits idle)
  rw [statusResult]
  split
  · exact ⟨trivial, same⟩
  · next running =>
    split
    · split
      · next unasked =>
        refine ⟨trivial, shown ?_ fun waiting => ?_⟩
        · split <;> decide
        · exact challenge waiting (ArduinoString.isEmpty_iff.mp unasked.2.1)
      · exact ⟨trivial, same⟩
    · next unrefused =>
      split
      · next phase =>
        have rewrites : (Operation.statusResult accepted).rewrites logger = true := by
          simp_all [Operation.rewrites]
        refine wp_record fun saved after flight wrote => ?_
        cases saved with
        | false => exact ⟨trivial, rfl, flight, by simp [wrote]⟩
        | true => exact ⟨trivial, rfl, flight, by simp [wrote, rewrites]⟩
      · split
        · next phase =>
          have rewrites : (Operation.statusResult accepted).rewrites logger = true := by
            simp_all [Operation.rewrites]
          refine wp_record fun saved after flight wrote => ?_
          cases saved with
          | false => exact ⟨trivial, rfl, flight, by simp [wrote]⟩
          | true => exact ⟨trivial, rfl, flight, by simp [wrote, rewrites]⟩
        · split
          · next connects => exact ⟨trivial, shown (by decide) connects.2.1⟩
          · exact ⟨trivial, same⟩

theorem beside_finishRotationFallback (oldAccepted : Bool) :
    Board.device.wp (logger.finishRotationFallback oldAccepted)
      (fun answer last => Beside (.finishRotationFallback oldAccepted) logger board answer.2 last)
      (fun _ => True) board := by
  rw [finishRotationFallback]
  split
  · exact ⟨trivial, .unsaved rfl Iff.rfl⟩
  · next reported =>
    have rewrites : (Operation.finishRotationFallback oldAccepted).rewrites logger = true := by
      simpa [Operation.rewrites] using reported
    refine wp_record fun saved after flight wrote => ?_
    cases saved with
    | false => exact ⟨trivial, rfl, flight, by simp [wrote, failed]⟩
    | true => exact ⟨trivial, rfl, flight, by simp [wrote, rewrites]⟩

theorem beside_operation (telemetry : operation.telemetry = true)
    (challenge : logger.status = .awaitingApproval → logger.authorizationId ≠ .empty) :
    Board.device.wp (operation.run logger) (fun next last => Beside operation logger board next last)
      (fun _ => True) board := by
  have second {program : Auth (Bool × LoggerAuthorization)}
      (wp : Board.device.wp program (fun answer last => Beside operation logger board answer.2 last)
        (fun _ => True) board) :
      Board.device.wp (do return (← program).2) (fun next last => Beside operation logger board next last)
        (fun _ => True) board :=
    Model.wp_then wp (fun _ _ => trivial) fun _ _ beside => ⟨trivial, beside⟩
  cases operation with
  | requestAuthorization | loop | factoryReset => cases telemetry
  | stageRotation rotation =>
    cases rotation with
    | none =>
      apply second
      simp only [stageRotation, ite_self]
      exact ⟨trivial, .unsaved rfl Iff.rfl⟩
    | some rotation => exact second (beside_stageRotation rotation rfl)
  | stageDesired envelope => exact second (beside_stageDesired envelope)
  | statusResult accepted => exact beside_statusResult challenge accepted
  | beginRotationFallback => exact ⟨trivial, .unsaved rfl Iff.rfl⟩
  | finishRotationFallback oldAccepted => exact second (beside_finishRotationFallback oldAccepted)

end Telemetry

def Answer.resolves (answer : Answer) : Bool :=
  answer.status == 401 || answer.status == 403 || answer.status == 410 ||
    (answer.status == 200 && match answer.body with
      | some (.object doc) =>
        (Members.get doc "status").reads "authorized" && (Members.get doc "token_type").reads "Bearer" &&
          validCredential doc
      | _ => false)

def Answer.retryMs (answer : Answer) (pollMs : UInt32) : UInt32 :=
  if answer.status = 429 then min 60000 (pollMs + 5000) else pollMs

structure Turn where
  now : UInt32
  connected : Bool
  -- no other owner has the HTTPS worker
  free : Bool
  answer : Option Answer

namespace Turn

variable (turn : Turn)

def handle (state : Board × List Submission) : (op : AuthOp) → Network.Reply op × (Board × List Submission)
  | .connected => (turn.connected, state)
  | .submit request =>
    if turn.free && !state.1.inFlight then
      (true, { state.1 with inFlight := true }, state.2 ++ [request])
    else (false, state)
  | op => ((state.1.answer true turn.now turn.answer op).1, (state.1.answer true turn.now turn.answer op).2, state.2)

def run (running : Running) : Running × List Submission :=
  let ran := running.logger.loop.exec turn.handle (running.board, [])
  (⟨ran.1, ran.2.1⟩, ran.2.2)

def Unresolved : Prop := ∀ answer, turn.answer = some answer → answer.resolves = false

def interval (pollMs : UInt32) : UInt32 := (turn.answer.map fun answer => answer.retryMs pollMs).getD pollMs

end Turn

def remaining (logger : LoggerAuthorization) (now : UInt32) : UInt32 :=
  if logger.expiresMs = 0 then 0
  else if logger.expiresMs ≤ now - logger.startedMs then 0
  else (logger.expiresMs - (now - logger.startedMs) + 999) / 1000

/-- A poll may be sent and is due: the last one was answered, and its interval is over. -/
structure Turn.Due (turn : Turn) (logger : LoggerAuthorization) : Prop where
  connected : turn.connected = true
  free : turn.free = true
  answered : logger.busy = true → turn.answer.isSome = true
  unexpired : logger.remaining turn.now ≠ 0
  elapsed : elapsed turn.now logger.lastPollMs
    (if logger.busy then turn.interval logger.pollMs else logger.pollMs) = true

section Turn

variable {turn : Turn} {state : Board × List Submission}

theorem expiresIn_exec : logger.expiresIn.exec turn.handle state = (logger.remaining turn.now, state) := by
  rw [expiresIn, remaining]
  split
  · rfl
  · rfl

theorem send_exec (start ack verify : Bool) :
    (logger.send start ack verify).exec turn.handle state =
      if turn.connected && (turn.free && !state.1.inFlight) then
        ((true, { logger with
          requestStart := start, requestAck := ack, requestVerify := verify, busy := true
          lastPollMs := turn.now }),
          { state.1 with inFlight := true }, state.2 ++ [logger.submission start ack verify])
      else ((false, logger.failed (if turn.connected then "HTTPS worker busy" else "Wi-Fi disconnected")),
        state) := by
  obtain ⟨now, connected, free, answer⟩ := turn
  obtain ⟨⟨record, inFlight, saves⟩, sent⟩ := state
  cases connected with
  | false => rfl
  | true =>
    cases free with
    | false => rfl
    | true => cases inFlight <;> rfl

theorem accept_exec {answer : Answer} (opens : answer.resolves = false) {start ack verify : Bool}
    (poll : start = false ∧ ack = false ∧ verify = false) :
    ∃ error, (logger.accept answer.status answer.body start ack verify).exec turn.handle state =
      ({ logger with pollMs := answer.retryMs logger.pollMs, error }, state) := by
  obtain ⟨rfl, rfl, rfl⟩ := poll
  simp only [Answer.resolves, Bool.or_eq_false_iff, beq_eq_false_iff_ne, ne_eq] at opens
  obtain ⟨⟨⟨unauthorized, forbidden⟩, gone⟩, undecided⟩ := opens
  have plain : logger.accept answer.status answer.body false false false =
      logger.acceptPlain answer.status answer.body false false := rfl
  rw [plain]
  unfold acceptPlain
  by_cases limited : answer.status = 429
  · rw [if_pos limited, Answer.retryMs, if_pos limited]
    exact ⟨_, rfl⟩
  · rw [if_neg limited, Answer.retryMs, if_neg limited]
    split
    · exact ⟨_, rfl⟩
    · rw [if_neg (by simp), if_neg (by simp [unauthorized, forbidden, gone])]
      split
      · next doc body =>
        simp only [body, Bool.and_eq_false_imp, beq_iff_eq, Bool.and_eq_true] at undecided
        rw [acceptDocument]
        simp only [Bool.false_and, Bool.false_eq_true, if_false, Bool.not_false, Bool.true_and]
        split
        · exact ⟨_, rfl⟩
        · split
          · next issues =>
            simp only [Bool.and_eq_true, beq_iff_eq] at issues
            have refused := undecided issues.1.1 ⟨issues.1.2, issues.2⟩
            simp only [issued, refused, Bool.not_false, if_true]
            exact ⟨_, rfl⟩
          · exact ⟨_, rfl⟩
      · exact ⟨_, rfl⟩

theorem takeResult_exec (flight : logger.busy = state.1.inFlight)
    (kind : logger.busy = true →
      logger.requestStart = false ∧ logger.requestAck = false ∧ logger.requestVerify = false)
    (unresolved : turn.Unresolved) :
    (logger.takeResult.exec turn.handle state = (logger, state) ∧
      (logger.busy = true → turn.answer = none)) ∨
    ∃ error, logger.busy = true ∧ logger.takeResult.exec turn.handle state =
      ({ logger with busy := false, pollMs := turn.interval logger.pollMs, error },
        { state.1 with inFlight := false }, state.2) := by
  cases busy : logger.busy with
  | false =>
    left
    obtain ⟨⟨record, inFlight, saves⟩, sent⟩ := state
    obtain rfl : inFlight = false := flight.symm.trans busy
    exact ⟨rfl, nofun⟩
  | true =>
    obtain ⟨⟨record, inFlight, saves⟩, sent⟩ := state
    obtain rfl : inFlight = true := flight.symm.trans busy
    cases answered : turn.answer with
    | none =>
      left
      have silent : turn.handle ({ record, inFlight := true, saves }, sent) .result =
          (none, { record, inFlight := true, saves }, sent) := by
        simp [Turn.handle, Board.answer, answered]
      refine ⟨?_, fun _ => rfl⟩
      rw [takeResult, ask, Prog.exec_bind, Prog.exec_request, silent]
      rfl
    | some answer =>
      right
      have delivered : turn.handle ({ record, inFlight := true, saves }, sent) .result =
          (some answer, { record, inFlight := true, saves }, sent) := by
        simp [Turn.handle, Board.answer, answered]
      obtain ⟨error, accepted⟩ := @accept_exec { logger with busy := false } turn
        ({ record, inFlight := true, saves }, sent) answer (unresolved answer answered) _ _ _
        (kind busy)
      rw [takeResult, ask, Prog.exec_bind, Prog.exec_request, delivered]
      dsimp only
      rw [Prog.exec_bind, accepted, Turn.interval, answered]
      by_cases broken : answer.status ≤ 0
      · exact ⟨_, rfl, by simp only [broken]; rfl⟩
      · exact ⟨_, rfl, by simp only [broken]; rfl⟩

theorem pollApproval_exec (unexpired : logger.remaining turn.now ≠ 0) :
    logger.pollApproval.exec turn.handle state =
      if logger.status ≠ .awaitingApproval ∨ logger.busy = true ∨
          elapsed turn.now logger.lastPollMs logger.pollMs = false then (logger, state)
      else (((logger.send false false false).exec turn.handle state).1.2,
        ((logger.send false false false).exec turn.handle state).2) := by
  have clock : turn.handle state .millis = (turn.now, state) := rfl
  rw [pollApproval]
  by_cases waits : logger.status = .awaitingApproval
  · cases busy : logger.busy with
    | true => simp
    | false =>
      simp only [waits, ne_eq, not_true, decide_false, Bool.false_or, Bool.false_eq_true, if_false, false_or,
        Prog.exec_bind, expiresIn_exec, if_neg unexpired]
      rw [ask, Prog.exec_request, clock]
      cases due : elapsed turn.now logger.lastPollMs logger.pollMs with
      | true => simp
      | false => simp
  · simp [waits]

end Turn

/-- Telemetry calls with any arguments and answers of the store, and turns of the loop in which
the challenge neither ends nor expires. The flag tells whether a call saved a rotation stage. -/
inductive Traffic (start : Running) : Bool → Running → Prop
  | none : Traffic start false start
  | call {overwritten : Bool} {logger next : LoggerAuthorization} {board last : Board}
      (earlier : Traffic start overwritten ⟨logger, board⟩) {operation : Operation}
      (telemetry : operation.telemetry = true) (run : Board.device.Runs (operation.run logger) board next last) :
      Traffic start (overwritten || (operation.rewrites logger && board.wrote last)) ⟨next, last⟩
  | turn {overwritten : Bool} {running : Running} (earlier : Traffic start overwritten running) (turn : Turn)
      (unresolved : turn.Unresolved) (unexpired : running.logger.remaining turn.now ≠ 0) :
      Traffic start overwritten (turn.run running).1

/-- A logger whose challenge is open and that has nothing else to ask. -/
structure Open (logger : LoggerAuthorization) : Prop where
  ready : logger.ready = true
  starting : logger.startPending = false
  pending : logger.ackPending = false
  challenge : logger.authorizationId ≠ .empty

structure Watched (start : LoggerAuthorization) (overwritten : Bool) (logger : LoggerAuthorization) (board : Board) :
    Prop where
  frame : logger = { start with
    candidate := logger.candidate, rotationNonce := logger.rotationNonce
    rotationExpiry := logger.rotationExpiry, rotationVersion := logger.rotationVersion
    rotationPhase := logger.rotationPhase, appliedRotationVersion := logger.appliedRotationVersion
    appliedRotationNonce := logger.appliedRotationNonce, fallback := logger.fallback, status := logger.status
    error := logger.error, restart := logger.restart, busy := logger.busy, pollMs := logger.pollMs
    lastPollMs := logger.lastPollMs, requestStart := logger.requestStart, requestAck := logger.requestAck
    requestVerify := logger.requestVerify }
  flight : logger.busy = board.inFlight
  kind : logger.busy = true →
    logger.requestStart = false ∧ logger.requestAck = false ∧ logger.requestVerify = false
  status : logger.status = .awaitingApproval ↔ overwritten = false

section Traffic

variable {start : LoggerAuthorization} {overwritten : Bool} {turn : Turn}

theorem Watched.open (watched : Watched start overwritten logger board) (opens : Open start) : Open logger := by
  rw [watched.frame]
  exact ⟨opens.ready, opens.starting, opens.pending, opens.challenge⟩

theorem Watched.call (watched : Watched start overwritten logger board) {operation : Operation}
    (beside : Beside operation logger board next last) :
    Watched start (overwritten || (operation.rewrites logger && board.wrote last)) next last := by
  obtain ⟨frame, flight, status⟩ := beside
  have before := watched.frame
  have busy : next.busy = logger.busy := by rw [frame]
  have kind : next.requestStart = logger.requestStart ∧ next.requestAck = logger.requestAck ∧
      next.requestVerify = logger.requestVerify := by
    rw [frame]
    exact ⟨rfl, rfl, rfl⟩
  refine ⟨?_, ?_, fun asks => ?_, ?_⟩
  · rw [frame]
    dsimp only
    rw [before]
  · rw [busy, flight]
    exact watched.flight
  · obtain ⟨sameStart, sameAck, sameVerify⟩ := kind
    rw [sameStart, sameAck, sameVerify]
    exact watched.kind (busy ▸ asks)
  · rw [status, watched.status, Bool.or_eq_false_iff]

theorem Watched.failed (watched : Watched start overwritten logger board) (error : String) :
    Watched start overwritten (logger.failed error) board := by
  have frame := watched.frame
  refine ⟨?_, watched.flight, watched.kind, watched.status⟩
  rw [LoggerAuthorization.failed]
  dsimp only
  rw [frame]

theorem Watched.taken (watched : Watched start overwritten logger board) (pollMs : UInt32) (error : String) :
    Watched start overwritten { logger with busy := false, pollMs, error } { board with inFlight := false } := by
  have frame := watched.frame
  refine ⟨?_, rfl, nofun, watched.status⟩
  dsimp only
  rw [frame]

theorem Watched.sent (watched : Watched start overwritten logger board) (lastPollMs : UInt32) :
    Watched start overwritten { logger with
      requestStart := false, requestAck := false, requestVerify := false, busy := true, lastPollMs }
      { board with inFlight := true } := by
  have frame := watched.frame
  refine ⟨?_, rfl, fun _ => ⟨rfl, rfl, rfl⟩, watched.status⟩
  dsimp only
  rw [frame]

theorem Watched.submission (watched : Watched start overwritten logger board) (begins ack verify : Bool)
    (bare : verify = false) : logger.submission begins ack verify = start.submission begins ack verify := by
  rw [watched.frame, bare]
  rfl

theorem Watched.polls (watched : Watched start overwritten logger board) (pending : logger.ackPending = false)
    (unexpired : logger.remaining turn.now ≠ 0) {submitted : List Submission}
    {ran : LoggerAuthorization × Board × List Submission}
    (run : (logger.retryAcknowledgement >>= fun retried => retried.pollApproval).exec turn.handle
      (board, submitted) = ran) :
    Watched start overwritten ran.1 ran.2.1 ∧ (turn.connected = true → turn.free = true → logger.busy = false →
      elapsed turn.now logger.lastPollMs logger.pollMs = true →
        ran.2.2 = if overwritten then submitted else submitted ++ [start.submission false false false]) := by
  have silent : logger.retryAcknowledgement = pure logger := by simp [retryAcknowledgement, pending]
  rw [silent, Prog.pure_bind_eq, pollApproval_exec unexpired] at run
  split at run
  · next rests =>
    obtain rfl := run
    refine ⟨watched, fun _ _ idle due => ?_⟩
    rcases rests with other | busy | early
    · have overwritten : overwritten = true := by
        simpa using fun kept => other (watched.status.mpr kept)
      rw [overwritten]
      rfl
    · exact absurd (idle.symm.trans busy) (by decide)
    · exact absurd (early.symm.trans due) (by decide)
  · next polls =>
    simp only [not_or, ne_eq, Decidable.not_not] at polls
    rw [send_exec] at run
    split at run
    · obtain rfl := run
      refine ⟨watched.sent turn.now, fun _ _ _ _ => ?_⟩
      have kept := watched.status.mp polls.1
      rw [kept, watched.submission false false false rfl]
      rfl
    · next refused =>
      obtain rfl := run
      refine ⟨watched.failed _, fun connected free idle _ => ?_⟩
      have flight : board.inFlight = false := watched.flight.symm.trans idle
      simp [connected, free, flight] at refused

theorem Watched.looped (watched : Watched start overwritten logger board) (opens : Open start)
    (unresolved : turn.Unresolved) (unexpired : logger.remaining turn.now ≠ 0) :
    Watched start overwritten (turn.run ⟨logger, board⟩).1.logger (turn.run ⟨logger, board⟩).1.board ∧
      (turn.Due logger →
        (turn.run ⟨logger, board⟩).2 = if overwritten then [] else [start.submission false false false]) := by
  have opened := watched.open opens
  -- No deferred start is waiting.
  have stages : logger.loop = logger.takeResult >>= fun taken => taken.retryAcknowledgement >>=
      fun retried => retried.pollApproval := by
    simp [loop, opened.ready, opened.starting]
  have idle (due : turn.Due logger) (unanswered : logger.busy = true → turn.answer = none) :
      logger.busy = false := by
    cases busy : logger.busy with
    | false => rfl
    | true => simpa [unanswered busy] using due.answered busy
  rw [Turn.run]
  dsimp only
  rw [stages, Prog.exec_bind]
  rcases @takeResult_exec _ turn (board, []) watched.flight watched.kind unresolved with
    ⟨taken, unanswered⟩ | ⟨error, busy, taken⟩
  · rw [taken]
    obtain ⟨kept, polls⟩ := @Watched.polls _ _ _ _ turn watched opened.pending unexpired [] _ rfl
    refine ⟨kept, fun due => ?_⟩
    have idle := idle due unanswered
    have elapsed := due.elapsed
    rw [if_neg (by simp [idle])] at elapsed
    exact polls due.connected due.free idle elapsed
  · rw [taken]
    have watched := watched.taken (turn.interval logger.pollMs) error
    obtain ⟨kept, polls⟩ := @Watched.polls _ _ _ _ turn watched opened.pending unexpired [] _ rfl
    refine ⟨kept, fun due => ?_⟩
    have elapsed := due.elapsed
    rw [if_pos busy] at elapsed
    exact polls due.connected due.free rfl elapsed

theorem watched_of_traffic (opens : Open start) (waiting : start.status = .awaitingApproval)
    (flight : start.busy = board.inFlight)
    (kind : start.busy = true →
      start.requestStart = false ∧ start.requestAck = false ∧ start.requestVerify = false)
    {final : Running} (traffic : Traffic ⟨start, board⟩ overwritten final) :
    Watched start overwritten final.logger final.board := by
  induction traffic with
  | none => exact ⟨rfl, flight, kind, iff_of_true waiting rfl⟩
  | call earlier telemetry run ih =>
    have challenge := (ih.open opens).challenge
    exact ih.call (Model.wp_runs (beside_operation telemetry fun _ => challenge) run)
  | turn earlier turn unresolved unexpired ih => exact (ih.looped opens unresolved unexpired).1

end Traffic

theorem uuid_ne_empty {text : ArduinoString} (valid : uuid text = true) : text ≠ .empty := by
  rintro rfl
  cases uuid_length valid

theorem Waits.running (waits : Waits logger) : ∀ next, some logger = some next → Waits next := by
  intro next same
  obtain rfl := Option.some.inj same
  exact waits

theorem begun_waits {program : Auth (Bool × LoggerAuthorization)} {config : UploadConfig}
    (begins : begin mac config = program) {answer : Bool × LoggerAuthorization}
    (run : Board.device.Runs program board answer last) : Waits answer.2 :=
  run.returns (begin_waits begins)

theorem performed_waits (reached : Reached Reports mac (some logger) board) (waits : Waits logger)
    {operation : Operation} (run : Board.device.Runs (operation.run logger) board next last) : Waits next := by
  have challenge (waiting : logger.status = .awaitingApproval) : logger.authorizationId ≠ .empty := by
    have held := (held_of_reached reached).2 logger rfl
    have live := held.state.resolve_right fun inert => inert.waiting waiting
    exact uuid_ne_empty (live.awaiting waiting).1.1
  have telemetered (telemetry : operation.telemetry = true) : Waits next := by
    have beside := Model.wp_runs (beside_operation telemetry challenge) run
    intro waiting
    rw [beside.frame]
    exact waits (beside.status.mp waiting).1
  cases operation with
  | requestAuthorization => exact run.returns (Prog.returns_bind.mpr (requestAuthorization_waits waits))
  | loop => exact run.returns (loop_waits waits)
  | stageRotation | stageDesired | statusResult | beginRotationFallback | finishRotationFallback =>
    exact telemetered rfl
  | factoryReset => exact run.returns (Prog.returns_then fun _ => waits)

theorem waits_of_reached (reached : Reached Reports mac memory board) :
    ∀ logger, memory = some logger → Waits logger := by
  induction reached with
  | blank | beginCut | cut =>
    intro logger off
    cases off
  | begin earlier config run ih =>
    have waits := begun_waits rfl run
    exact waits.running
  | run earlier fits run ih => exact (performed_waits earlier (ih _ rfl) run).running

/-- Whatever the traffic was, the challenge is the same, and a poll that is due is sent exactly when
no call of the traffic saved a stage of a rotation. -/
theorem polling_continues_iff (mac : UInt64) (logger : LoggerAuthorization) (board : Board)
    (reached : Reached Reports mac (some logger) board) (waiting : logger.status = .awaitingApproval)
    (overwritten : Bool) (final : Running) (traffic : Traffic ⟨logger, board⟩ overwritten final) :
    (final.logger.authorizationId = logger.authorizationId ∧ final.logger.deviceCode = logger.deviceCode ∧
      final.logger.userCode = logger.userCode) ∧
    ∀ turn : Turn, turn.Due final.logger → turn.Unresolved →
      ((turn.run final).2 = [logger.submission false false false] ↔ overwritten = false) := by
  have held := (held_of_reached reached).2 logger rfl
  have live := held.state.resolve_right fun inert => inert.waiting waiting
  obtain ⟨challenge, pending⟩ := live.awaiting waiting
  have starting : logger.startPending = false :=
    eq_false_of_ne_true fun starts => (live.starting starts).2.2 waiting
  have opens : Open logger :=
    ⟨waits_of_reached reached logger rfl waiting, starting, pending, uuid_ne_empty challenge.1⟩
  have kind (busy : logger.busy = true) :
      logger.requestStart = false ∧ logger.requestAck = false ∧ logger.requestVerify = false := by
    have asked := live.asked busy
    refine ⟨eq_false_of_ne_true fun starts => (asked.starts starts).2.2.2 waiting,
      eq_false_of_ne_true fun ack => ?_, eq_false_of_ne_true fun verify => ?_⟩
    · exact absurd (pending.symm.trans (asked.pends (.inl ack))) (by decide)
    · exact absurd (pending.symm.trans (asked.pends (.inr verify))) (by decide)
  have watched := watched_of_traffic opens waiting held.flight kind traffic
  refine ⟨?_, fun turn due unresolved => ?_⟩
  · rw [watched.frame]
    exact ⟨rfl, rfl, rfl⟩
  · rw [(watched.looped opens unresolved due.unexpired).2 due]
    cases overwritten with
    | false => simp
    | true => simp

def asking : Running :=
  ((boot true httpsConfig approved.board).perform 0 none .requestAuthorization).perform 0
    (served 201 challengeBody) .loop

theorem reached_asking : Reached Reports 0 (some asking.logger) asking.board := by
  have others (logger : LoggerAuthorization) (operation : Operation)
      (other : operation ≠ .finishRotationFallback true) : Reports logger operation :=
    fun same => absurd same other
  have booted := reached_boot (reached_approved others) true httpsConfig
  have started := reached_perform booted 0 none .requestAuthorization (others _ _ nofun)
  exact reached_loop started others 0 (served 201 challengeBody)

def dueTurn : Turn := { now := 6000, connected := true, free := true, answer := none }

theorem dueTurn_unresolved : dueTurn.Unresolved := fun _ answered => by cases answered

theorem traffic_perform {running : Running} {operation : Operation} (telemetry : operation.telemetry = true) :
    Traffic ⟨running.logger, running.board⟩ (operation.rewrites running.logger &&
      running.board.wrote (running.perform 0 none operation).board) (running.perform 0 none operation) := by
  have run := Model.runs_of_handler (Board.step_answer true 0 none) (operation.run running.logger) running.board
  have traffic := Traffic.call .none telemetry run
  rw [Bool.false_or] at traffic
  exact traffic

/-- A refused telemetry status leaves the polling alone. -/
theorem polling_continues_refused :
    (dueTurn.run (asking.perform 0 none (.statusResult false))).2 =
      [asking.logger.submission false false false] := by
  have facts : asking.logger.status = .awaitingApproval ∧
      (asking.perform 0 none (.statusResult false)).logger.busy = false ∧
      (asking.perform 0 none (.statusResult false)).logger.remaining 6000 ≠ 0 ∧
      elapsed 6000 (asking.perform 0 none (.statusResult false)).logger.lastPollMs
        (asking.perform 0 none (.statusResult false)).logger.pollMs = true := by
    decide +kernel
  obtain ⟨waiting, idle, unexpired, elapsed⟩ := facts
  have due : dueTurn.Due (asking.perform 0 none (.statusResult false)).logger := by
    refine ⟨rfl, rfl, fun busy => absurd (idle.symm.trans busy) (by decide), unexpired, ?_⟩
    rw [if_neg (by simp [idle])]
    exact elapsed
  have polls := (polling_continues_iff 0 asking.logger asking.board reached_asking waiting _ _
    (@traffic_perform asking (.statusResult false) rfl)).2 dueTurn due dueTurn_unresolved
  exact polls.mpr (by simp [Operation.rewrites])

/-- A rotation that is staged while the owner is asked ends the polling. -/
theorem polling_stopped : Reached Reports 0 (some asking.logger) asking.board ∧
    asking.logger.status = .awaitingApproval ∧
    Traffic ⟨asking.logger, asking.board⟩ true (asking.perform 0 none (.stageRotation (some rotationBody))) ∧
    (asking.perform 0 none (.stageRotation (some rotationBody))).logger.restart = false ∧
    dueTurn.Due (asking.perform 0 none (.stageRotation (some rotationBody))).logger ∧ dueTurn.Unresolved ∧
    (dueTurn.run (asking.perform 0 none (.stageRotation (some rotationBody)))).2 = [] := by
  have facts : asking.logger.status = .awaitingApproval ∧
      ((Operation.stageRotation (some rotationBody)).rewrites asking.logger &&
        asking.board.wrote (asking.perform 0 none (.stageRotation (some rotationBody))).board) = true ∧
      (asking.perform 0 none (.stageRotation (some rotationBody))).logger.restart = false ∧
      (asking.perform 0 none (.stageRotation (some rotationBody))).logger.busy = false ∧
      (asking.perform 0 none (.stageRotation (some rotationBody))).logger.remaining 6000 ≠ 0 ∧
      elapsed 6000 (asking.perform 0 none (.stageRotation (some rotationBody))).logger.lastPollMs
        (asking.perform 0 none (.stageRotation (some rotationBody))).logger.pollMs = true ∧
      (dueTurn.run (asking.perform 0 none (.stageRotation (some rotationBody)))).2.isEmpty = true := by
    decide +kernel
  obtain ⟨waiting, saved, running, idle, unexpired, elapsed, silent⟩ := facts
  refine ⟨reached_asking, waiting, saved ▸ traffic_perform rfl, running, ?_, dueTurn_unresolved,
    List.isEmpty_iff.mp silent⟩
  refine ⟨rfl, rfl, fun busy => absurd (idle.symm.trans busy) (by decide), unexpired, ?_⟩
  rw [if_neg (by simp [idle])]
  exact elapsed

end ApexiDevices.LoggerAuthorization
