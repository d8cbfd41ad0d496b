import ApexiDevices.Authorization.Operations

set_option autoImplicit false

namespace ApexiDevices.LoggerAuthorization

open Device DeviceAuthorizationPolicy

inductive Operation
  | requestAuthorization
  | loop
  | stageRotation (rotation : Option Members)
  | stageDesired (envelope : Members)
  | statusResult (accepted : Bool)
  | beginRotationFallback
  | finishRotationFallback (oldAccepted : Bool)
  | factoryReset

def Operation.run (logger : LoggerAuthorization) : Operation → Auth LoggerAuthorization
  | requestAuthorization => do return (← logger.requestAuthorization).2
  | loop => logger.loop
  | stageRotation rotation => do return (← logger.stageRotation rotation).2
  | stageDesired envelope => do return (← logger.stageDesired envelope).2
  | statusResult accepted => logger.statusResult accepted
  | beginRotationFallback => return logger.beginRotationFallback
  | finishRotationFallback oldAccepted => do return (← logger.finishRotationFallback oldAccepted).2
  | factoryReset => do
    let _ ← LoggerAuthorization.factoryReset
    return logger

inductive Reached (allowed : LoggerAuthorization → Operation → Prop) (mac : UInt64) :
    Option LoggerAuthorization → Board → Prop
  | blank : Reached allowed mac none {}
  | begin {memory : Option LoggerAuthorization} {board last : Board} {answer : Bool × LoggerAuthorization}
      (earlier : Reached allowed mac memory board) (config : UploadConfig)
      (run : Board.device.Runs (begin mac config) { board with inFlight := false } answer last) :
      Reached allowed mac (some answer.2) last
  | beginCut {memory : Option LoggerAuthorization} {board last : Board}
      (earlier : Reached allowed mac memory board) (config : UploadConfig)
      (cut : Board.device.Cut (begin mac config) { board with inFlight := false } last) :
      Reached allowed mac none last
  | run {logger next : LoggerAuthorization} {board last : Board}
      (earlier : Reached allowed mac (some logger) board) {operation : Operation}
      (fits : allowed logger operation) (run : Board.device.Runs (operation.run logger) board next last) :
      Reached allowed mac (some next) last
  | cut {logger : LoggerAuthorization} {board last : Board}
      (earlier : Reached allowed mac (some logger) board) {operation : Operation}
      (fits : allowed logger operation) (cut : Board.device.Cut (operation.run logger) board last) :
      Reached allowed mac none last

/-- Every order, but an accepted fallback is one that was sent with a bearer, or that a logger
reports which began and does not wait for a restart. -/
def Reports (logger : LoggerAuthorization) (operation : Operation) : Prop :=
  operation = .finishRotationFallback true → Reportable logger

variable {mac : UInt64} {logger : LoggerAuthorization} {board : Board}
  {memory : Option LoggerAuthorization}

theorem wp_operation (held : Held mac logger board) {operation : Operation}
    (reports : Reports logger operation) :
    Board.device.wp (operation.run logger) (Held mac) (Kept mac) board := by
  have second {program : Auth (Bool × LoggerAuthorization)}
      (wp : Board.device.wp program (fun answer => Held mac answer.2) (Kept mac) board) :
      Board.device.wp (do return (← program).2) (Held mac) (Kept mac) board :=
    Model.wp_then wp (fun _ same => same) fun _ _ held => ⟨held.kept, held⟩
  cases operation with
  | requestAuthorization => exact second (wp_requestAuthorization held)
  | loop => exact wp_loop held
  | stageRotation rotation => exact second (wp_stageRotation held rotation)
  | stageDesired envelope => exact second (wp_stageDesired held envelope)
  | statusResult accepted => exact wp_statusResult held accepted
  | beginRotationFallback => exact ⟨held.kept, held.fallback true⟩
  | finishRotationFallback oldAccepted =>
    exact second (wp_finishRotationFallback held oldAccepted fun accepted => reports (by rw [accepted]))
  | factoryReset => exact Model.wp_then (wp_factoryReset held) (fun _ same => same) fun _ _ held => ⟨held.kept, held⟩

theorem Held.running (held : Held mac logger board) :
    Kept mac board ∧ ∀ running, some logger = some running → Held mac running board := by
  refine ⟨held.kept, fun running same => ?_⟩
  obtain rfl := Option.some.inj same
  exact held

theorem Kept.off (kept : Kept mac board) :
    Kept mac board ∧ ∀ running, none = some running → Held mac running board :=
  ⟨kept, fun _ impossible => by cases impossible⟩

theorem Kept.rebooted (kept : Kept mac board) : Kept mac { board with inFlight := false } :=
  ⟨kept.record, kept.saves⟩

theorem held_of_reached (reached : Reached Reports mac memory board) :
    Kept mac board ∧ ∀ logger, memory = some logger → Held mac logger board := by
  induction reached with
  | blank =>
    apply Kept.off
    constructor
    · intro record impossible
      cases impossible
    · intro entry impossible
      cases impossible
  | begin earlier config run ih => exact (Model.wp_runs (wp_begin config ih.1.rebooted rfl) run).running
  | beginCut earlier config cut ih => exact (Model.wp_cut (wp_begin config ih.1.rebooted rfl) cut).off
  | run earlier fits run ih => exact (Model.wp_runs (wp_operation (ih.2 _ rfl) fits) run).running
  | cut earlier fits cut ih => exact (Model.wp_cut (wp_operation (ih.2 _ rfl) fits) cut).off

def Board.answer (opens : Bool) (now : UInt32) (response : Option Answer) (board : Board) :
    (op : AuthOp) → Network.Reply op × Board
  | .random => (0, board)
  | .connected => (true, board)
  | .millis => (now, board)
  | .time => ((0 : Int), board)
  | .openStore => (opens, board)
  | .getRecord => (board.record.map fun record => some (.object record), board)
  | .putRecord record => (true, { board with record := some record })
  | .saveRecord save =>
    (true, { board with record := some save.record, saves := board.saves ++ [(save, true)] })
  | .startWorker => (true, board)
  | .submit _ => (!board.inFlight, { board with inFlight := true })
  | .result => (if board.inFlight then response else none, board)
  | .release => ((), { board with inFlight := false })
  | .cancelPending => ((), board)

theorem Board.step_answer (opens : Bool) (now : UInt32) (response : Option Answer) (board : Board)
    (op : AuthOp) : Board.device.step board op (board.answer opens now response op).1
      (board.answer opens now response op).2 := by
  cases op with
  | random | connected | millis | time | openStore | startWorker | release | cancelPending => rfl
  | getRecord => exact ⟨rfl, rfl⟩
  | putRecord record => exact ⟨.inl rfl, rfl, rfl⟩
  | saveRecord save => exact ⟨.inl rfl, rfl, rfl⟩
  | submit request =>
    obtain ⟨record, inFlight, saves⟩ := board
    cases inFlight with
    | false => exact ⟨rfl, rfl⟩
    | true => rfl
  | result =>
    refine ⟨rfl, fun answered => ?_⟩
    cases flight : board.inFlight with
    | true => rfl
    | false => simp [Board.answer, flight] at answered

structure Running where
  logger : LoggerAuthorization
  board : Board

def boot (opens : Bool) (config : UploadConfig) (board : Board) : Running :=
  let ran := (begin 0 config).exec (Board.answer opens 0 none) { board with inFlight := false }
  ⟨ran.1.2, ran.2⟩

def Running.perform (running : Running) (now : UInt32) (response : Option Answer) (operation : Operation) :
    Running :=
  let ran := (operation.run running.logger).exec (Board.answer true now response) running.board
  ⟨ran.1, ran.2⟩

variable {allowed : LoggerAuthorization → Operation → Prop}

theorem reached_boot {board : Board} (earlier : Reached allowed 0 memory board) (opens : Bool)
    (config : UploadConfig) :
    Reached allowed 0 (some (boot opens config board).logger) (boot opens config board).board := by
  have run := Model.runs_of_handler (Board.step_answer opens 0 none) (begin 0 config)
    { board with inFlight := false }
  rw [boot]
  generalize (begin 0 config).exec (Board.answer opens 0 none) { board with inFlight := false } = ran at run ⊢
  exact .begin earlier config run

theorem reached_perform {running : Running} (earlier : Reached allowed 0 (some running.logger) running.board)
    (now : UInt32) (response : Option Answer) (operation : Operation) (fits : allowed running.logger operation) :
    Reached allowed 0 (some (running.perform now response operation).logger)
      (running.perform now response operation).board := by
  have run := Model.runs_of_handler (Board.step_answer true now response) (operation.run running.logger)
    running.board
  exact .run earlier fits run

def served (status : Int) (members : Members) : Option Answer := some ⟨status, some (.object members), 0⟩

def httpsConfig : UploadConfig := { protocol := .https, mqttHost := .of "app.example.test", mqttPort := 443 }

def challengeBody : Members :=
  [("authorization_id", .string "12345678-1234-4234-8234-123456789012"),
    ("device_code", .string "aaaaaaaaaaaaaaaaaaaaaaaaaaaaaaaaaaaaaaaa"), ("user_code", .string "ABCD-EFGH"),
    ("expires_in", .int 600), ("interval", .int 5)]

def issuedBody : Members :=
  [("status", .string "authorized"), ("token_type", .string "Bearer"),
    ("access_token", .string "nnnnnnnnnnnnnnnnnnnnnnnnnnnnnnnnnnnnnnnn"), ("device_id", .string "mda-logger"),
    ("credential_version", .int 2)]

def rotationBody : Members :=
  [("type", .string "app_bearer"), ("version", .int 3), ("nonce", .string "nonce-0003"),
    ("token", .string "rrrrrrrrrrrrrrrrrrrrrrrrrrrrrrrrrrrrrrrr"),
    ("overlap_expires_at", .string "2026-09-10T00:00:00Z")]

def approved : Running :=
  ((((((boot true httpsConfig {}).perform 0 none .requestAuthorization).perform 0 (served 201 challengeBody)
    .loop).perform 6000 none .loop).perform 6000 (served 200 issuedBody) .loop).perform 12000 none
      .loop).perform 12000 (served 200 [("status", .string "acknowledged")]) .loop

theorem reached_loop {running : Running} (earlier : Reached allowed 0 (some running.logger) running.board)
    (others : ∀ logger operation, operation ≠ .finishRotationFallback true → allowed logger operation)
    (now : UInt32) (response : Option Answer) :
    Reached allowed 0 (some (running.perform now response .loop).logger)
      (running.perform now response .loop).board :=
  reached_perform earlier now response .loop (others _ _ nofun)

theorem reached_approved (others : ∀ logger operation, operation ≠ .finishRotationFallback true →
    allowed logger operation) : Reached allowed 0 (some approved.logger) approved.board := by
  have started := reached_perform (reached_boot .blank true httpsConfig) 0 none .requestAuthorization
    (others _ _ nofun)
  have challenged := reached_loop started others 0 (served 201 challengeBody)
  have polled := reached_loop challenged others 6000 none
  have issued := reached_loop polled others 6000 (served 200 issuedBody)
  have acknowledging := reached_loop issued others 12000 none
  exact reached_loop acknowledging others 12000 (served 200 [("status", .string "acknowledged")])

/-- Every record that was saved is accepted again and restores what was saved. -/
theorem records_round_trip (mac : UInt64) (memory : Option LoggerAuthorization) (board : Board)
    (reached : Reached Reports mac memory board) (save : Save) (saved : (save, true) ∈ board.saves) :
    RoundTrip save (durableAcknowledgement save.self) := by
  have savable := (held_of_reached reached).1.saves _ saved
  exact roundTrip_of_coherent savable.toCoherent savable.origin

/-- Three saves of an approved logger: its challenge, its credential, the acknowledgement. -/
theorem records_round_trip_approved : approved.board.saves.length = 3 ∧
    ∀ save, (save, true) ∈ approved.board.saves → RoundTrip save (durableAcknowledgement save.self) :=
  ⟨by decide +kernel, fun save saved => records_round_trip 0 (some approved.logger) approved.board
    (reached_approved fun logger operation other same => absurd same other) save saved⟩

def Running.lastSave (running : Running) : Save :=
  match running.board.saves.getLast? with
  | some entry => entry.1
  | none => ⟨running.logger, .empty, .empty, 0⟩

theorem lastSave_mem {running : Running} (saved : running.board.saves.getLast?.map Prod.snd = some true) :
    (running.lastSave, true) ∈ running.board.saves := by
  rw [Running.lastSave]
  cases last : running.board.saves.getLast? with
  | none => simp [last] at saved
  | some entry =>
    have answered : entry.2 = true := by simpa [last] using saved
    have member := List.mem_of_getLast? last
    rwa [← Prod.eta (p := entry), answered] at member

def Save.sameDevice (save : Save) : LoggerAuthorization :=
  { hardwareId := save.self.hardwareId, origin := save.self.origin }

theorem RoundTrip.sameDevice {save : Save} {acknowledgement : String} (trip : RoundTrip save acknowledgement) :
    (save.sameDevice.restoreRecord (some (.object save.record))).1 = true ∧
      Restores save acknowledgement (save.sameDevice.restoreRecord (some (.object save.record))).2 :=
  trip.same save.sameDevice rfl rfl rfl

theorem not_roundTrip_of_refused {save : Save} {acknowledgement : String}
    (refused : (save.sameDevice.restoreRecord (some (.object save.record))).1 = false) :
    ¬RoundTrip save acknowledgement := fun trip =>
  absurd (refused.symm.trans trip.sameDevice.1) (by decide)

/-- An accepted fallback is reported while the first credential waits for its restart. -/
def reportedLate : Running := approved.perform 12000 none (.finishRotationFallback true)

def reportedUnbegun : Running := (boot false httpsConfig {}).perform 0 none (.finishRotationFallback true)

/-- The approved logger stages a rotation; a later challenge expires while a fallback is under way. -/
def expiredInFallback : Running :=
  (((((boot true httpsConfig approved.board).perform 0 none (.stageRotation (some rotationBody))).perform 0 none
    .requestAuthorization).perform 0 (served 201 challengeBody) .loop).perform 0 none
      .beginRotationFallback).perform 700000 none .loop

theorem reached_expiredInFallback :
    Reached Reports 0 (some expiredInFallback.logger) expiredInFallback.board := by
  have others (logger : LoggerAuthorization) (operation : Operation)
      (other : operation ≠ .finishRotationFallback true) : Reports logger operation :=
    fun same => absurd same other
  have booted := reached_boot (reached_approved others) true httpsConfig
  have staged := reached_perform booted 0 none (.stageRotation (some rotationBody)) (others _ _ nofun)
  have started := reached_perform staged 0 none .requestAuthorization (others _ _ nofun)
  have challenged := reached_loop started others 0 (served 201 challengeBody)
  have fallback := reached_perform challenged 0 none .beginRotationFallback (others _ _ nofun)
  exact reached_loop fallback others 700000 none

theorem expiredInFallback_last : expiredInFallback.board.saves.getLast?.map Prod.snd = some true ∧
    expiredInFallback.lastSave.self.storedOrigin = expiredInFallback.lastSave.self.origin ∧
    expiredInFallback.lastSave.self.fallback = true ∧
    (expiredInFallback.lastSave.sameDevice.restoreRecord
      (some (.object expiredInFallback.lastSave.record))).2.fallback = false ∧
    (expiredInFallback.lastSave.sameDevice.restoreRecord
      (some (.object expiredInFallback.lastSave.record))).2.rotationPhase ≠ 0 ∧
    (expiredInFallback.lastSave.sameDevice.restoreRecord
      (some (.object expiredInFallback.lastSave.record))).2.rotationVersion ≠ 0 ∧
    (expiredInFallback.lastSave.sameDevice.restoreRecord
      (some (.object expiredInFallback.lastSave.record))).2.rotationNonce ≠ .empty := by
  decide +kernel

theorem acknowledgement_ne {logger : LoggerAuthorization} (settled : logger.fallback = false)
    (staged : logger.rotationPhase ≠ 0) (version : logger.rotationVersion ≠ 0)
    (nonce : logger.rotationNonce ≠ .empty) : logger.rotationAcknowledgement ≠ "" := by
  have named : logger.rotationNonce.isEmpty = false :=
    eq_false_of_ne_true fun blank => nonce (ArduinoString.isEmpty_iff.mp blank)
  simp [rotationAcknowledgement, settled, staged, version, named, Json.serialize]

/-- The two orders that are left out save records the loader refuses, and a fallback under way
changes the acknowledgement although every record is accepted. -/
theorem records_not_restored :
    (Reached (fun _ _ => True) 0 (some reportedLate.logger) reportedLate.board ∧
      ∃ save, (save, true) ∈ reportedLate.board.saves ∧ ¬RoundTrip save (durableAcknowledgement save.self)) ∧
    (Reached (fun _ _ => True) 0 (some reportedUnbegun.logger) reportedUnbegun.board ∧
      ∃ save, (save, true) ∈ reportedUnbegun.board.saves ∧
        ¬RoundTrip save (durableAcknowledgement save.self)) ∧
    (Reached Reports 0 (some expiredInFallback.logger) expiredInFallback.board ∧
      ∃ save, (save, true) ∈ expiredInFallback.board.saves ∧
        ¬RoundTrip save save.self.rotationAcknowledgement) := by
  have late : reportedLate.board.saves.getLast?.map Prod.snd = some true ∧
      (reportedLate.lastSave.sameDevice.restoreRecord (some (.object reportedLate.lastSave.record))).1 =
        false := by
    decide +kernel
  have unbegun : reportedUnbegun.board.saves.getLast?.map Prod.snd = some true ∧
      (reportedUnbegun.lastSave.sameDevice.restoreRecord
        (some (.object reportedUnbegun.lastSave.record))).1 = false := by
    decide
  refine ⟨⟨?_, _, lastSave_mem late.1, not_roundTrip_of_refused late.2⟩,
    ⟨?_, _, lastSave_mem unbegun.1, not_roundTrip_of_refused unbegun.2⟩,
    reached_expiredInFallback, _, lastSave_mem expiredInFallback_last.1, fun trip => ?_⟩
  · exact reached_perform (reached_approved fun _ _ _ => trivial) 12000 none _ trivial
  · exact reached_perform (reached_boot .blank false httpsConfig) 0 none _ trivial
  · obtain ⟨-, own, fallback, settled, staged, version, nonce⟩ := expiredInFallback_last
    obtain ⟨-, -, -, -, -, same⟩ := trip.sameDevice.2.rotation own
    refine acknowledgement_ne settled staged version nonce (same.trans ?_)
    rw [rotationAcknowledgement, fallback]
    rfl

end ApexiDevices.LoggerAuthorization
