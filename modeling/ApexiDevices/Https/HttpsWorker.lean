import ApexiDevices.Https.HttpsExchange

set_option autoImplicit false

/-!
# The HTTP worker and its three owners

The Arduino loop and the worker task take turns at any point between two
accesses to the shared state word, the owner tag and the task notification.
-/

namespace ApexiDevices

open Device HttpsExchange

inductive Owner where
  | None
  | Authorization
  | Logs
  | Telemetry
  deriving DecidableEq, Repr

def Owner.bit : Owner → UInt8
  | None => 0
  | Authorization => 1
  | Logs => 2
  | Telemetry => 4

structure HttpsArbiter where
  pending : UInt8 := 0

def HttpsArbiter.request (arbiter : HttpsArbiter) (owner : Owner) (idle : Bool) : Bool × HttpsArbiter :=
  if owner.bit = 0 then (false, arbiter)
  else
    let pending := arbiter.pending ||| owner.bit
    (idle && pending &&& (0 - pending) == owner.bit, ⟨pending⟩)

def HttpsArbiter.cancel (arbiter : HttpsArbiter) (owner : Owner) : HttpsArbiter where
  pending := arbiter.pending &&& ~~~owner.bit

namespace HttpsWorker

inductive Main where
  | ready
  -- submit: the arbiter agreed, the request is not yet published
  | admitted (owner : Owner) (arguments : Arguments)
  -- submit: the worker could already see the request
  | published (owner : Owner)
  | tagged
  -- release: the result was seen, then the buffers were given back
  | releasing
  | released

inductive Worker where
  | waiting
  | taken
  | processing (used : Nat)

/-- An accepted submit up to its release: for the statements only, no code reads it. -/
structure Transaction where
  owner : Owner
  text : Text
  completions : Nat

structure Machine where
  exchange : HttpsExchange := HttpsExchange.cold
  owner : Owner := .None
  arbiter : HttpsArbiter := {}
  task : Bool := false
  notified : Bool := false
  main : Main := .ready
  worker : Worker := .waiting
  transaction : Option Transaction := none

namespace Machine

def begin (machine : Machine) (created : Bool) : Machine := { machine with task := machine.task || created }

def submit (machine : Machine) (owner : Owner) (arguments : Arguments) : Machine :=
  if owner = .None || !machine.task then machine
  else
    match machine.arbiter.request owner machine.exchange.idle with
    | (true, arbiter) => { machine with arbiter, main := .admitted owner arguments }
    | (false, arbiter) => { machine with arbiter }

/-- `exchange_.submit`, and `arbiter_.cancel` when it refuses. -/
def publish (machine : Machine) (owner : Owner) (arguments : Arguments) : Machine :=
  match machine.exchange.submit arguments with
  | none => { machine with arbiter := machine.arbiter.cancel owner, main := .ready }
  | some exchange =>
    { machine with exchange, main := .published owner, transaction := some ⟨owner, arguments.text, 0⟩ }

def tag (machine : Machine) (owner : Owner) : Machine :=
  { machine with arbiter := machine.arbiter.cancel owner, owner, main := .tagged }

def notify (machine : Machine) : Machine := { machine with notified := true, main := .ready }

def result (machine : Machine) (owner : Owner) : Option Result :=
  if machine.owner = owner then machine.exchange.completed else none

def release (machine : Machine) (owner : Owner) : Machine :=
  if machine.owner = owner ∧ machine.exchange.completed.isSome then { machine with main := .releasing }
  else machine

def giveBack (machine : Machine) : Machine :=
  { machine with exchange := machine.exchange.release, main := .released, transaction := none }

def untag (machine : Machine) : Machine := { machine with owner := .None, main := .ready }

def cancelPending (machine : Machine) (owner : Owner) : Machine :=
  { machine with arbiter := machine.arbiter.cancel owner }

/-- `ulTaskNotifyTake` with a notification there; without one the worker only waits on. -/
def take (machine : Machine) : Machine := { machine with notified := false, worker := .taken }

def request (machine : Machine) : Machine :=
  match machine.exchange.requested with
  | none => { machine with worker := .waiting }
  | some _ => { machine with worker := .processing 0 }

end Machine

inductive Write where
  | start
  | answer (status : Int) (reused permanentRejection : Bool)
  | body (data : Bytes)
  | broken
  | finish (tlsError : Int) (durationMs : UInt32)

/-- `used` is how much of the body the response sink has stored. -/
def Write.apply (used : Nat) (result : Result) : Write → Nat × Result
  | start =>
    (0, { result with status := -1, permanentRejection := false, tlsError := 0, body := 0 :: result.body.drop 1 })
  | answer status reused permanentRejection => (used, { result with status, reused, permanentRejection })
  | body data =>
    if data.length > kBodyLimit - used then (used, result)
    else (used + data.length,
      { result with body := result.body.take used ++ data ++ 0 :: result.body.drop (used + data.length + 1) })
  | broken => (used, { result with status := -1, permanentRejection := false, body := 0 :: result.body.drop 1 })
  | finish tlsError durationMs => (used, { result with tlsError, durationMs })

namespace Machine

def write (machine : Machine) (used : Nat) (write : Write) : Machine :=
  let (used, result) := write.apply used machine.exchange.result
  { machine with exchange := { machine.exchange with result }, worker := .processing used }

def complete (machine : Machine) : Machine :=
  { machine with
    exchange := machine.exchange.complete
    worker := .waiting
    transaction := machine.transaction.map fun t => { t with completions := t.completions + 1 } }

end Machine

/-- One step of either task; calls start only when the loop is in no other call. -/
inductive Step (machine : Machine) : Machine → Prop
  | begin (created : Bool) (call : machine.main = .ready) : Step machine (machine.begin created)
  | submit (owner : Owner) (arguments : Arguments) (call : machine.main = .ready) :
      Step machine (machine.submit owner arguments)
  | publish (owner : Owner) (arguments : Arguments) (at_call : machine.main = .admitted owner arguments) :
      Step machine (machine.publish owner arguments)
  | tag (owner : Owner) (at_call : machine.main = .published owner) : Step machine (machine.tag owner)
  | notify (at_call : machine.main = .tagged) : Step machine machine.notify
  | release (owner : Owner) (call : machine.main = .ready) : Step machine (machine.release owner)
  | giveBack (at_call : machine.main = .releasing) : Step machine machine.giveBack
  | untag (at_call : machine.main = .released) : Step machine machine.untag
  | cancelPending (owner : Owner) (call : machine.main = .ready) : Step machine (machine.cancelPending owner)
  | take (waiting : machine.worker = .waiting) (notified : machine.notified = true) : Step machine machine.take
  | request (taken : machine.worker = .taken) : Step machine machine.request
  | write (used : Nat) (write : Write) (processing : machine.worker = .processing used) :
      Step machine (machine.write used write)
  | complete (used : Nat) (processing : machine.worker = .processing used) : Step machine machine.complete

inductive Reached : Machine → Prop
  | start : Reached {}
  | step {machine next : Machine} (earlier : Reached machine) (step : Step machine next) : Reached next

/-- The phases of the handoff: main, worker, state word, notification, owner tag, transaction. -/
inductive Phase : Main → Worker → State → Bool → Owner → Option Transaction → Prop
  | empty : Phase .ready .waiting .Idle false .None none
  | admitted (owner : Owner) (arguments : Arguments) :
      Phase (.admitted owner arguments) .waiting .Idle false .None none
  | published (owner : Owner) (text : Text) :
      Phase (.published owner) .waiting .Requested false .None (some ⟨owner, text, 0⟩)
  | tagged (owner : Owner) (text : Text) : Phase .tagged .waiting .Requested false owner (some ⟨owner, text, 0⟩)
  | notified (owner : Owner) (text : Text) : Phase .ready .waiting .Requested true owner (some ⟨owner, text, 0⟩)
  | taken (owner : Owner) (text : Text) : Phase .ready .taken .Requested false owner (some ⟨owner, text, 0⟩)
  | processing (used : Nat) (owner : Owner) (text : Text) :
      Phase .ready (.processing used) .Requested false owner (some ⟨owner, text, 0⟩)
  | complete (owner : Owner) (text : Text) : Phase .ready .waiting .Complete false owner (some ⟨owner, text, 1⟩)
  | releasing (owner : Owner) (text : Text) :
      Phase .releasing .waiting .Complete false owner (some ⟨owner, text, 1⟩)
  | released (owner : Owner) : Phase .released .waiting .Idle false owner none

structure Invariant (machine : Machine) : Prop where
  phase : Phase machine.main machine.worker machine.exchange.state machine.notified machine.owner
    machine.transaction
  request : ∀ transaction, machine.transaction = some transaction →
    machine.exchange.request.read = transaction.text
  cleared : machine.exchange.state = .Idle → machine.exchange.Cleared

namespace Phase

variable {main : Main} {worker : Worker} {state : State} {notified : Bool} {owner tag : Owner}
  {arguments : Arguments} {transaction : Option Transaction} {used : Nat}

theorem accept (phase : Phase .ready worker .Idle notified tag transaction) :
    Phase (.admitted owner arguments) worker .Idle notified tag transaction := by
  cases phase
  exact .admitted owner arguments

theorem refuse (phase : Phase (.admitted owner arguments) worker state notified tag transaction) :
    Phase .ready worker state notified tag transaction := by
  cases phase
  exact .empty

theorem publish (phase : Phase (.admitted owner arguments) worker state notified tag transaction) (text : Text) :
    Phase (.published owner) worker .Requested notified tag (some ⟨owner, text, 0⟩) := by
  cases phase
  exact .published owner text

theorem tag_owner (phase : Phase (.published owner) worker state notified tag transaction) :
    Phase .tagged worker state notified owner transaction := by
  cases phase
  exact .tagged owner _

theorem notify (phase : Phase .tagged worker state notified tag transaction) :
    Phase .ready worker state true tag transaction := by
  cases phase
  exact .notified _ _

theorem release (phase : Phase .ready worker .Complete notified tag transaction) :
    Phase .releasing worker .Complete notified tag transaction := by
  cases phase
  exact .releasing _ _

theorem giveBack (phase : Phase .releasing worker state notified tag transaction) :
    Phase .released worker .Idle notified tag none := by
  cases phase
  exact .released _

theorem untag (phase : Phase .released worker state notified tag transaction) :
    Phase .ready worker state notified .None transaction := by
  cases phase
  exact .empty

theorem take (phase : Phase main .waiting state true tag transaction) :
    Phase main .taken state false tag transaction := by
  cases phase
  exact .taken _ _

theorem request (phase : Phase main .taken state notified tag transaction) :
    state = .Requested ∧ Phase main (.processing 0) state notified tag transaction := by
  cases phase
  exact ⟨rfl, .processing 0 _ _⟩

theorem write (phase : Phase main (.processing used) state notified tag transaction) (more : Nat) :
    state = .Requested ∧ Phase main (.processing more) state notified tag transaction := by
  cases phase
  exact ⟨rfl, .processing more _ _⟩

theorem finish (phase : Phase main (.processing used) state notified tag transaction) :
    Phase main .waiting .Complete notified tag
      (transaction.map fun t => { t with completions := t.completions + 1 }) := by
  cases phase
  exact .complete _ _

end Phase

theorem request_granted {arbiter later : HttpsArbiter} {owner : Owner} {idle : Bool}
    (granted : arbiter.request owner idle = (true, later)) : idle = true := by
  unfold HttpsArbiter.request at granted
  split at granted
  · cases granted
  · exact (Bool.and_eq_true_iff.mp (Prod.mk.inj granted).1).1

theorem completed_isSome {exchange : HttpsExchange} (visible : exchange.completed.isSome = true) :
    exchange.state = .Complete := by
  unfold HttpsExchange.completed at visible
  split at visible
  · assumption
  · cases visible

section Steps

variable {machine : Machine} (inv : Invariant machine)

include inv

theorem submit_invariant (call : machine.main = .ready) (owner : Owner) (arguments : Arguments) :
    Invariant (machine.submit owner arguments) := by
  unfold Machine.submit
  split
  · exact inv
  split
  · rename_i granted
    have idle : machine.exchange.state = .Idle := by
      simpa [HttpsExchange.idle] using request_granted granted
    have phase := inv.phase
    rw [call, idle] at phase
    exact ⟨idle ▸ phase.accept, inv.request, inv.cleared⟩
  · exact ⟨inv.phase, inv.request, inv.cleared⟩

theorem publish_invariant {owner : Owner} {arguments : Arguments}
    (at_call : machine.main = .admitted owner arguments) : Invariant (machine.publish owner arguments) := by
  have phase := inv.phase
  rw [at_call] at phase
  unfold Machine.publish
  split
  · exact ⟨phase.refuse, inv.request, inv.cleared⟩
  · rename_i exchange accepted
    obtain ⟨-, requested, -, text⟩ := submit_some accepted
    refine ⟨?_, ?_, fun idle => ?_⟩
    · dsimp only
      rw [requested]
      exact phase.publish _
    · rintro transaction ⟨⟩
      exact text
    · rw [requested] at idle
      cases idle

theorem release_invariant (call : machine.main = .ready) (owner : Owner) : Invariant (machine.release owner) := by
  unfold Machine.release
  split
  · rename_i mine
    have complete := completed_isSome mine.2
    have phase := inv.phase
    rw [call, complete] at phase
    exact ⟨complete ▸ phase.release, inv.request, inv.cleared⟩
  · exact inv

theorem request_invariant (taken : machine.worker = .taken) : Invariant machine.request := by
  have phase := inv.phase
  rw [taken] at phase
  obtain ⟨requested, processing⟩ := phase.request
  have found : machine.exchange.requested = some machine.exchange.request := by
    rw [HttpsExchange.requested, if_pos requested]
  unfold Machine.request
  rw [found]
  exact ⟨processing, inv.request, inv.cleared⟩

theorem write_invariant {used : Nat} (processing : machine.worker = .processing used) (write : Write) :
    Invariant (machine.write used write) := by
  have phase := inv.phase
  rw [processing] at phase
  obtain ⟨requested, kept⟩ := phase.write (write.apply used machine.exchange.result).1
  exact ⟨kept, inv.request, fun idle => by cases requested.symm.trans idle⟩

theorem complete_invariant {used : Nat} (processing : machine.worker = .processing used) :
    Invariant machine.complete := by
  have phase := inv.phase
  rw [processing] at phase
  refine ⟨phase.finish, ?_, fun impossible => by cases impossible⟩
  intro transaction finished
  obtain ⟨open_one, known, rfl⟩ := Option.map_eq_some_iff.mp finished
  exact inv.request open_one known

theorem step_invariant {next : Machine} (step : Step machine next) : Invariant next := by
  have phase := inv.phase
  cases step with
  | begin created call => exact ⟨inv.phase, inv.request, inv.cleared⟩
  | submit owner arguments call => exact submit_invariant inv call owner arguments
  | publish owner arguments at_call => exact publish_invariant inv at_call
  | tag owner at_call =>
    rw [at_call] at phase
    exact ⟨phase.tag_owner, inv.request, inv.cleared⟩
  | notify at_call =>
    rw [at_call] at phase
    exact ⟨phase.notify, inv.request, inv.cleared⟩
  | release owner call => exact release_invariant inv call owner
  | giveBack at_call =>
    rw [at_call] at phase
    exact ⟨phase.giveBack, fun _ impossible => (by cases impossible), fun _ => release_cleared _⟩
  | untag at_call =>
    rw [at_call] at phase
    exact ⟨phase.untag, inv.request, inv.cleared⟩
  | cancelPending owner call => exact ⟨inv.phase, inv.request, inv.cleared⟩
  | take waiting notified =>
    rw [waiting, notified] at phase
    exact ⟨phase.take, inv.request, inv.cleared⟩
  | request taken => exact request_invariant inv taken
  | write used write processing => exact write_invariant inv processing write
  | complete used processing => exact complete_invariant inv processing

end Steps

theorem reached_invariant {machine : Machine} (reached : Reached machine) : Invariant machine := by
  induction reached with
  | start => exact ⟨.empty, fun _ impossible => (by cases impossible), fun _ => cold_cleared⟩
  | step earlier step ih => exact step_invariant ih step

def Main.Submitting : Main → Prop
  | .published _ | .tagged => True
  | _ => False

structure Held (machine : Machine) (transaction : Transaction) : Prop where
  underway : machine.main.Submitting ∨ machine.notified = true ∨ machine.worker ≠ .waiting ∨
    machine.exchange.state = .Complete
  atMostOnce : transaction.completions ≤ 1
  completed : machine.exchange.state = .Complete ↔ transaction.completions = 1

section Phases

variable {main : Main} {worker : Worker} {state : State} {notified : Bool} {tag : Owner}
  {transaction : Option Transaction}

theorem Phase.underway {open_one : Transaction} (phase : Phase main worker state notified tag (some open_one)) :
    (main.Submitting ∨ notified = true ∨ worker ≠ .waiting ∨ state = .Complete) ∧ open_one.completions ≤ 1 ∧
      (state = .Complete ↔ open_one.completions = 1) := by
  cases phase <;> simp [Main.Submitting]

theorem Phase.visible (phase : Phase main worker .Complete notified tag transaction) :
    ∃ text, transaction = some ⟨tag, text, 1⟩ := by
  cases phase <;> exact ⟨_, rfl⟩

theorem Phase.read {used : Nat} (phase : Phase main (.processing used) state notified tag transaction) :
    ∃ open_one, transaction = some open_one := by
  cases phase
  exact ⟨_, rfl⟩

theorem Phase.vacant {owner : Owner} {arguments : Arguments}
    (phase : Phase (.admitted owner arguments) worker state notified tag transaction) : transaction = none := by
  cases phase
  rfl

theorem Phase.final (phase : Phase .releasing worker state notified tag transaction) : state = .Complete := by
  cases phase
  rfl

end Phases

/-- A transaction goes on, with the same owner and request, until its result is given back. -/
theorem step_transaction {machine next : Machine} (inv : Invariant machine) (step : Step machine next)
    {transaction : Transaction} (known : machine.transaction = some transaction) :
    (∃ completions, transaction.completions ≤ completions ∧
        next.transaction = some { transaction with completions }) ∨
      (machine.main = .releasing ∧ machine.exchange.state = .Complete) := by
  have phase := inv.phase
  have same {later : Machine} (kept : later.transaction = machine.transaction) :
      ∃ completions, transaction.completions ≤ completions ∧
        later.transaction = some { transaction with completions } :=
    ⟨_, Nat.le_refl _, kept.trans known⟩
  cases step with
  | publish owner arguments at_call =>
    rw [at_call] at phase
    rw [phase.vacant] at known
    cases known
  | giveBack at_call =>
    rw [at_call] at phase
    exact .inr ⟨at_call, phase.final⟩
  | complete used processing =>
    exact .inl ⟨transaction.completions + 1, Nat.le_succ _, by rw [Machine.complete, known]; rfl⟩
  | submit owner arguments call =>
    apply Or.inl
    unfold Machine.submit
    split
    · exact same rfl
    · split <;> exact same rfl
  | release owner call =>
    apply Or.inl
    unfold Machine.release
    split <;> exact same rfl
  | request taken =>
    apply Or.inl
    unfold Machine.request
    split <;> exact same rfl
  | begin | tag | notify | untag | cancelPending | take | write => exact .inl (same rfl)

theorem release_foreign {machine : Machine} (inv : Invariant machine) {owner : Owner}
    (foreign : ∀ transaction, machine.transaction = some transaction → transaction.owner = owner →
      transaction.completions = 0) : machine.release owner = machine := by
  unfold Machine.release
  split
  · rename_i mine
    have phase := inv.phase
    rw [completed_isSome mine.2] at phase
    obtain ⟨text, known⟩ := phase.visible
    cases foreign _ known mine.1
  · rfl

theorem submit_rejected {machine : Machine} {owner : Owner} {arguments : Arguments}
    (rejected : (machine.submit owner arguments).main = .ready) :
    machine.submit owner arguments = { machine with arbiter := (machine.submit owner arguments).arbiter } := by
  unfold Machine.submit at rejected ⊢
  split at rejected
  · rename_i absent
    rw [if_pos absent]
  · rename_i present
    rw [if_neg present]
    split at rejected
    · cases rejected
    · rfl

theorem publish_rejected {machine : Machine} {owner : Owner} {arguments : Arguments}
    (rejected : (machine.publish owner arguments).main = .ready) :
    machine.publish owner arguments =
      { machine with arbiter := machine.arbiter.cancel owner, main := .ready } := by
  unfold Machine.publish at rejected ⊢
  split at rejected
  · rfl
  · cases rejected

/-- The handoff between the Arduino loop and the worker, at every interleaving. -/
theorem https_handoff {machine : Machine} (reached : Reached machine) :
    (∀ used, machine.worker = .processing used →
      ∃ transaction, machine.transaction = some transaction ∧ machine.exchange.request.read = transaction.text) ∧
    (∀ transaction, machine.transaction = some transaction → Held machine transaction ∧
      ∀ next, Step machine next →
        (∃ completions, transaction.completions ≤ completions ∧
            next.transaction = some { transaction with completions }) ∨
          (machine.main = .releasing ∧ machine.exchange.state = .Complete)) ∧
    (∀ owner result, machine.result owner = some result →
      ∃ transaction, machine.transaction = some transaction ∧ transaction.owner = owner ∧
        transaction.completions = 1) ∧
    (∀ owner, (∀ transaction, machine.transaction = some transaction →
        transaction.owner = owner → transaction.completions = 0) → machine.release owner = machine) ∧
    (∀ owner arguments, (machine.submit owner arguments).main = .ready →
      machine.submit owner arguments = { machine with arbiter := (machine.submit owner arguments).arbiter }) ∧
    (∀ owner arguments, (machine.publish owner arguments).main = .ready →
      machine.publish owner arguments = { machine with arbiter := machine.arbiter.cancel owner, main := .ready }) ∧
    (machine.exchange.state = .Idle → machine.exchange.Cleared) := by
  -- one clause of the invariant for each of the parts
  have inv := reached_invariant reached
  refine ⟨?_, ?_, ?_, fun owner foreign => release_foreign inv foreign, fun _ _ => submit_rejected,
    fun _ _ => publish_rejected, inv.cleared⟩
  · intro used processing
    have phase := inv.phase
    rw [processing] at phase
    obtain ⟨transaction, known⟩ := phase.read
    exact ⟨transaction, known, inv.request transaction known⟩
  · intro transaction known
    have phase := inv.phase
    rw [known] at phase
    obtain ⟨underway, once, completed⟩ := phase.underway
    exact ⟨⟨underway, once, completed⟩, fun next step => step_transaction inv step known⟩
  · intro owner result visible
    unfold Machine.result at visible
    split at visible
    · rename_i mine
      have phase := inv.phase
      rw [completed_isSome (by rw [visible]; rfl)] at phase
      obtain ⟨text, known⟩ := phase.visible
      exact ⟨_, known, mine, rfl⟩
    · cases visible

section Example

def logsArguments : Arguments where
  url := some ⟨ascii "https://x", by decide⟩
  payload := some ⟨ascii "\x7b\x7d", by decide⟩
  bearer := some ⟨ascii "token", by decide⟩
  accessId := some ⟨[], by decide⟩
  accessSecret := some ⟨[], by decide⟩
  get := false

def logsAdmitted : Machine := (Machine.begin {} true).submit .Logs logsArguments

def logsPublished : Machine := logsAdmitted.publish .Logs logsArguments

def logsCompleted : Machine := (logsPublished.tag .Logs).notify.take.request.complete

theorem logsCompleted_reached : Reached logsCompleted := by
  have begun := Reached.step .start (.begin true rfl)
  have admitted := begun.step (.submit .Logs logsArguments rfl)
  have published := admitted.step (.publish .Logs logsArguments rfl)
  have tagged := published.step (.tag .Logs rfl)
  have notified := tagged.step (.notify rfl)
  have taken := notified.step (.take rfl rfl)
  have requested := taken.step (.request rfl)
  exact requested.step (.complete 0 rfl)

theorem https_handoff_logs : ∃ transaction, logsCompleted.transaction = some transaction ∧
    transaction.owner = .Logs ∧ transaction.completions = 1 :=
  (https_handoff logsCompleted_reached).2.2.1 .Logs _ rfl

end Example

end HttpsWorker

end ApexiDevices
