import Mathlib.Logic.Function.Basic
import Mathlib.Tactic.Common

set_option autoImplicit false

/-!
# Programs over a device

A program is a tree of requests to the hardware below it. The same tree is run
by an executable handler, by every failing device, and by a device that loses
power between or inside two requests.
-/

namespace Device

structure Signature where
  Op : Type
  Reply : Op → Type

inductive Prog (S : Signature) (α : Type) where
  | done (value : α)
  | call (op : S.Op) (next : S.Reply op → Prog S α)

namespace Prog

variable {S T : Signature} {α β γ : Type}

def bind (program : Prog S α) (rest : α → Prog S β) : Prog S β :=
  match program with
  | .done value => rest value
  | .call op next => .call op (fun reply => (next reply).bind rest)

instance : Monad (Prog S) where
  pure := .done
  bind := bind

def request (op : S.Op) : Prog S (S.Reply op) := .call op .done

theorem bind_pure_eq (program : Prog S α) : program >>= pure = program := by
  induction program with
  | done value => rfl
  | call op next ih => exact congrArg (call op) (funext ih)

theorem bind_assoc (program : Prog S α) (rest : α → Prog S β) (last : β → Prog S γ) :
    (program.bind rest).bind last = program.bind (fun value => (rest value).bind last) := by
  induction program with
  | done value => rfl
  | call op next ih => simp only [bind, ih]

@[simp] theorem pure_bind_eq (value : α) (rest : α → Prog S β) :
    (pure value >>= rest : Prog S β) = rest value := rfl

@[simp] theorem bind_bind_eq (program : Prog S α) (rest : α → Prog S β) (last : β → Prog S γ) :
    (program >>= rest) >>= last = program >>= fun value => rest value >>= last :=
  bind_assoc program rest last

/-- Run a program against an executable device. -/
def exec {σ : Type} (handle : σ → (op : S.Op) → S.Reply op × σ) : Prog S α → σ → α × σ
  | .done value, state => (value, state)
  | .call op next, state => exec handle (next (handle state op).1) (handle state op).2

/-- So many requests of a program, and what is left of it. -/
def execFor {σ : Type} (handle : σ → (op : S.Op) → S.Reply op × σ) : Nat → Prog S α → σ → Prog S α × σ
  | 0, program, state => (program, state)
  | _ + 1, .done value, state => (.done value, state)
  | count + 1, .call op next, state => execFor handle count (next (handle state op).1) (handle state op).2

@[simp] theorem exec_pure {σ : Type} (handle : σ → (op : S.Op) → S.Reply op × σ) (value : α)
    (state : σ) : exec handle (pure value) state = (value, state) := rfl

@[simp] theorem exec_request {σ : Type} (handle : σ → (op : S.Op) → S.Reply op × σ) (op : S.Op)
    (state : σ) : exec handle (request op) state = handle state op := rfl

@[simp] theorem exec_bind {σ : Type} (handle : σ → (op : S.Op) → S.Reply op × σ)
    (program : Prog S α) (rest : α → Prog S β) (state : σ) :
    exec handle (program >>= rest) state =
      exec handle (rest (exec handle program state).1) (exec handle program state).2 := by
  induction program generalizing state with
  | done value => rfl
  | call op next ih => exact ih (handle state op).1 (handle state op).2

/-- Every value the program may return, whatever its requests are answered. -/
def Returns (post : α → Prop) : Prog S α → Prop
  | .done value => post value
  | .call _ next => ∀ reply, (next reply).Returns post

@[simp] theorem returns_pure {post : α → Prop} {value : α} :
    (pure value : Prog S α).Returns post ↔ post value := Iff.rfl

@[simp] theorem returns_request {op : S.Op} {post : S.Reply op → Prop} :
    (request op).Returns post ↔ ∀ reply, post reply := Iff.rfl

@[simp] theorem returns_bind {program : Prog S α} {rest : α → Prog S β} {post : β → Prop} :
    (program >>= rest).Returns post ↔ program.Returns fun value => (rest value).Returns post := by
  induction program with
  | done value => exact Iff.rfl
  | call op next ih => exact forall_congr' ih

theorem returns_then {program : Prog S α} {rest : α → Prog S β} {post : β → Prop}
    (next : ∀ value, (rest value).Returns post) : (program >>= rest).Returns post := by
  rw [returns_bind]
  induction program with
  | done value => exact next value
  | call op continue_ ih => exact fun reply => ih reply

theorem returns_unless {condition : Prop} [Decidable condition] {program : Prog S α} {rest : Prog S β} {post : β → Prop}
    (next : rest.Returns post) : (if condition then program >>= fun _ => rest else rest).Returns post := by
  split
  · exact returns_then fun _ => next
  · exact next

theorem Returns.mono {program : Prog S α} {post weaker : α → Prop} (returns : program.Returns post)
    (implies : ∀ value, post value → weaker value) : program.Returns weaker := by
  induction program with
  | done value => exact implies value returns
  | call op next ih => exact fun reply => ih reply (returns reply)

theorem returns_any (program : Prog S α) : program.Returns fun _ => True := by
  induction program with
  | done value => exact trivial
  | call op next ih => exact ih

/-- Every request the program may make is allowed. -/
def Asks (allowed : S.Op → Prop) : Prog S α → Prop
  | .done _ => True
  | .call op next => allowed op ∧ ∀ reply, (next reply).Asks allowed

section Asks

variable {allowed : S.Op → Prop}

@[simp] theorem asks_pure {value : α} : (pure value : Prog S α).Asks allowed := trivial

@[simp] theorem asks_request {op : S.Op} : (request op).Asks allowed ↔ allowed op :=
  ⟨fun asks => asks.1, fun permitted => ⟨permitted, fun _ => trivial⟩⟩

theorem asks_any (program : Prog S α) : program.Asks fun _ => True := by
  induction program with
  | done value => exact trivial
  | call op next ih => exact ⟨trivial, ih⟩

theorem Asks.mono {program : Prog S α} {weaker : S.Op → Prop} (asks : program.Asks allowed)
    (implies : ∀ op, allowed op → weaker op) : program.Asks weaker := by
  induction program with
  | done value => exact trivial
  | call op next ih => exact ⟨implies op asks.1, fun reply => ih reply (asks.2 reply)⟩

theorem Asks.bind {program : Prog S α} {rest : α → Prog S β} (first : program.Asks allowed)
    (next : ∀ value, (rest value).Asks allowed) : (program >>= rest).Asks allowed := by
  induction program with
  | done value => exact next value
  | call op continue_ ih => exact ⟨first.1, fun reply => ih reply (first.2 reply)⟩

/-! The two ways a step may be left out in front of what follows it. -/

theorem Asks.unless {condition : Prop} [Decidable condition] {program : Prog S α} {rest : Prog S β}
    (first : program.Asks allowed) (next : rest.Asks allowed) :
    (if condition then program >>= fun _ => rest else rest).Asks allowed := by
  split
  · exact first.bind fun _ => next
  · exact next

theorem Asks.either {condition : Prop} [Decidable condition] {program other : Prog S α} {rest : α → Prog S β}
    (first : program.Asks allowed) (second : other.Asks allowed) (next : ∀ value, (rest value).Asks allowed) :
    (if condition then program >>= rest else other >>= rest).Asks allowed := by
  split
  · exact first.bind next
  · exact second.bind next

end Asks

end Prog

/-- Two interfaces side by side: every request goes to one of them. -/
abbrev Signature.sum (S T : Signature) : Signature where
  Op := S.Op ⊕ T.Op
  Reply
    | .inl op => S.Reply op
    | .inr op => T.Reply op

namespace Prog

variable {S T : Signature} {α β : Type}

def left : Prog S α → Prog (S.sum T) α
  | .done value => .done value
  | .call op next => .call (.inl op) (fun reply => (next reply).left)

def right : Prog T α → Prog (S.sum T) α
  | .done value => .done value
  | .call op next => .call (.inr op) (fun reply => (next reply).right)

end Prog

/-- What a device may answer, and what a power loss inside a request may leave. -/
structure Model (S : Signature) (σ : Type) where
  step : σ → (op : S.Op) → S.Reply op → σ → Prop
  torn : σ → S.Op → σ → Prop

namespace Model

variable {S T : Signature} {σ τ α β : Type}

/-- The program ran to its end. -/
inductive Runs (D : Model S σ) : Prog S α → σ → α → σ → Prop
  | done (value : α) (state : σ) : Runs D (.done value) state value state
  | call {op : S.Op} {next : S.Reply op → Prog S α} {reply : S.Reply op} {state middle last : σ}
      {value : α} (step : D.step state op reply middle) (rest : Runs D (next reply) middle value last) :
      Runs D (.call op next) state value last

/-- Power was lost before, inside or after any one request of the program. -/
inductive Cut (D : Model S σ) : Prog S α → σ → σ → Prop
  | here (program : Prog S α) (state : σ) : Cut D program state state
  | inside {op : S.Op} {next : S.Reply op → Prog S α} {state last : σ}
      (torn : D.torn state op last) : Cut D (.call op next) state last
  | call {op : S.Op} {next : S.Reply op → Prog S α} {reply : S.Reply op} {state middle last : σ}
      (step : D.step state op reply middle) (rest : Cut D (next reply) middle last) :
      Cut D (.call op next) state last

/-- The states from which every run ends in `post` and every power loss leaves `crash`. -/
def wp (D : Model S σ) : Prog S α → (α → σ → Prop) → (σ → Prop) → σ → Prop
  | .done value, post, crash, state => crash state ∧ post value state
  | .call op next, post, crash, state =>
      crash state ∧ (∀ last, D.torn state op last → crash last) ∧
        ∀ reply middle, D.step state op reply middle → wp D (next reply) post crash middle

variable {D : Model S σ} {program : Prog S α} {post post' : α → σ → Prop} {crash crash' : σ → Prop}
  {state last : σ} {value : α}

theorem wp_crash (h : D.wp program post crash state) : crash state := by
  cases program <;> exact h.1

theorem wp_runs (h : D.wp program post crash state) (run : D.Runs program state value last) :
    post value last := by
  induction run with
  | done value state => exact h.2
  | call step rest ih => exact ih (h.2.2 _ _ step)

theorem Runs.returns {returned : α → Prop} (run : D.Runs program state value last)
    (returns : program.Returns returned) : returned value := by
  induction run with
  | done value state => exact returns
  | call step rest ih => exact ih (returns _)

theorem wp_cut (h : D.wp program post crash state) (cut : D.Cut program state last) : crash last := by
  induction cut with
  | here program state => exact wp_crash h
  | inside torn => exact h.2.1 _ torn
  | call step rest ih => exact ih (h.2.2 _ _ step)

/-- The weakest precondition says no more than the runs and the power losses themselves. -/
theorem wp_of_runs (D : Model S σ) (program : Prog S α) (state : σ) :
    D.wp program (D.Runs program state) (D.Cut program state) state := by
  have general (rest : Prog S α) (middle : σ)
      (runs : ∀ value last, D.Runs rest middle value last → D.Runs program state value last)
      (cuts : ∀ last, D.Cut rest middle last → D.Cut program state last) :
      D.wp rest (D.Runs program state) (D.Cut program state) middle := by
    induction rest generalizing middle with
    | done value => exact ⟨cuts _ (.here _ _), runs _ _ (.done _ _)⟩
    | call op next ih =>
      refine ⟨cuts _ (.here _ _), fun last torn => cuts _ (.inside torn), fun reply later step => ?_⟩
      exact ih reply later (fun _ _ run => runs _ _ (.call step run)) (fun _ cut => cuts _ (.call step cut))
  exact general program state (fun _ _ run => run) (fun _ cut => cut)

theorem wp_mono (h : D.wp program post crash state) (posts : ∀ value last, post value last → post' value last)
    (crashes : ∀ last, crash last → crash' last) : D.wp program post' crash' state := by
  induction program generalizing state with
  | done value => exact ⟨crashes _ h.1, posts _ _ h.2⟩
  | call op next ih =>
    exact ⟨crashes _ h.1, fun last torn => crashes _ (h.2.1 last torn),
      fun reply middle step => ih reply (h.2.2 reply middle step)⟩

theorem wp_narrow {E : Model S σ} {allowed : S.Op → Prop} (asks : program.Asks allowed)
    (steps : ∀ state op reply middle, allowed op → E.step state op reply middle → D.step state op reply middle)
    (torn : ∀ state op last, allowed op → E.torn state op last → D.torn state op last)
    (h : D.wp program post crash state) : E.wp program post crash state := by
  induction program generalizing state with
  | done value => exact h
  | call op next ih =>
    obtain ⟨here, cut, later⟩ := h
    exact ⟨here, fun last tears => cut last (torn _ _ _ asks.1 tears),
      fun reply middle step => ih reply (asks.2 reply) (later reply middle (steps _ _ _ _ asks.1 step))⟩

theorem wp_and (first : D.wp program post crash state) (second : D.wp program post' crash' state) :
    D.wp program (fun value last => post value last ∧ post' value last) (fun last => crash last ∧ crash' last) state := by
  induction program generalizing state with
  | done value => exact ⟨⟨first.1, second.1⟩, first.2, second.2⟩
  | call op next ih =>
    exact ⟨⟨first.1, second.1⟩, fun last torn => ⟨first.2.1 last torn, second.2.1 last torn⟩,
      fun reply middle step => ih reply (first.2.2 reply middle step) (second.2.2 reply middle step)⟩

theorem wp_returns {returned : α → Prop} (returns : program.Returns returned) (D : Model S σ) (state : σ) :
    D.wp program (fun value _ => returned value) (fun _ => True) state := by
  induction program generalizing state with
  | done value => exact ⟨trivial, returns⟩
  | call op next ih => exact ⟨trivial, fun _ _ => trivial, fun reply middle _ => ih reply (returns reply) middle⟩

@[simp] theorem wp_pure {value : α} :
    D.wp (pure value) post crash state ↔ crash state ∧ post value state := Iff.rfl

@[simp] theorem wp_request {op : S.Op} {post : S.Reply op → σ → Prop} :
    D.wp (Prog.request op) post crash state ↔ crash state ∧ (∀ last, D.torn state op last → crash last) ∧
      ∀ reply middle, D.step state op reply middle → crash middle ∧ post reply middle := Iff.rfl

theorem wp_bind {rest : α → Prog S β} {post : β → σ → Prop} :
    D.wp (program >>= rest) post crash state ↔
      D.wp program (fun value middle => D.wp (rest value) post crash middle) crash state := by
  induction program generalizing state with
  | done value => exact ⟨fun h => ⟨wp_crash h, h⟩, fun h => h.2⟩
  | call op next ih =>
    exact and_congr_right fun _ => and_congr_right fun _ =>
      forall_congr' fun reply => forall_congr' fun middle => imp_congr_right fun _ => ih reply

theorem wp_then {rest : α → Prog S β} {post₁ : α → σ → Prop} {crash₁ : σ → Prop} {post : β → σ → Prop}
    (first : D.wp program post₁ crash₁ state) (crashes : ∀ last, crash₁ last → crash last)
    (next : ∀ value middle, post₁ value middle → D.wp (rest value) post crash middle) :
    D.wp (program >>= rest) post crash state :=
  wp_bind.mpr (wp_mono first next crashes)

/-- A handler whose every answer is one of the device's runs every program to its end. -/
theorem runs_of_handler {handle : σ → (op : S.Op) → S.Reply op × σ}
    (allowed : ∀ state op, D.step state op (handle state op).1 (handle state op).2) (program : Prog S α)
    (state : σ) : D.Runs program state (program.exec handle state).1 (program.exec handle state).2 := by
  induction program generalizing state with
  | done value => exact .done _ _
  | call op next ih => exact .call (allowed state op) (ih _ _)

/-- A device that answers like an executable handler, with the given torn states. -/
def ofHandler (handle : σ → (op : S.Op) → S.Reply op × σ) (torn : σ → S.Op → σ → Prop) :
    Model S σ where
  step state op reply last := handle state op = (reply, last)
  torn := torn

section Handler

variable {handle : σ → (op : S.Op) → S.Reply op × σ} {torn : σ → S.Op → σ → Prop}

@[simp] theorem wp_request_ofHandler {op : S.Op} {post : S.Reply op → σ → Prop} :
    (ofHandler handle torn).wp (Prog.request op) post crash state ↔
      crash state ∧ (∀ last, torn state op last → crash last) ∧
        crash (handle state op).2 ∧ post (handle state op).1 (handle state op).2 := by
  rw [wp_request]
  refine and_congr_right fun _ => and_congr_right fun _ => ⟨fun h => h _ _ rfl, ?_⟩
  rintro ⟨crashed, posted⟩ reply middle step
  obtain ⟨rfl, rfl⟩ := Prod.mk.inj (show handle state op = (reply, middle) from step)
  exact ⟨crashed, posted⟩

theorem runs_exec (program : Prog S α) (state : σ) :
    (ofHandler handle torn).Runs program state (program.exec handle state).1
      (program.exec handle state).2 :=
  runs_of_handler (fun _ _ => rfl) program state

/-- Power may be lost in what is left of a program after its first requests. -/
theorem cut_execFor {count : Nat} (cut : (ofHandler handle torn).Cut (Prog.execFor handle count program state).1
    (Prog.execFor handle count program state).2 last) : (ofHandler handle torn).Cut program state last := by
  induction count generalizing program state with
  | zero => exact cut
  | succ count ih =>
    cases program with
    | done value => exact cut
    | call op next => exact .call rfl (ih cut)

theorem exec_wp (h : (ofHandler handle torn).wp program post crash state) :
    post (program.exec handle state).1 (program.exec handle state).2 :=
  wp_runs h (runs_exec program state)

end Handler

/-- A program that only reads: one answer, no change, nothing a power loss could tear. -/
def Observes (D : Model S σ) (state : σ) (program : Prog S α) (value : α) : Prop :=
  D.wp program (fun answer last => answer = value ∧ last = state) (fun last => last = state) state

theorem Observes.then {rest : α → Prog S β} {post : β → σ → Prop} (h : Observes D state program value)
    (next : D.wp (rest value) post crash state) : D.wp (program >>= rest) post crash state := by
  refine wp_then h (fun last same => same ▸ wp_crash next) ?_
  rintro answer last ⟨rfl, rfl⟩
  exact next

end Model

end Device
