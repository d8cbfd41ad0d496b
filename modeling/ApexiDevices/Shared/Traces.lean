import ApexiDevices.Shared.Program

set_option autoImplicit false

/-!
# The requests of a run

A trace is what a device sees of a run: every request with its answer, whatever
the answers are.
-/

namespace Device.Prog

variable {S : Signature} {α β : Type}

abbrev Exchange (S : Signature) : Type := Σ op : S.Op, S.Reply op

/-- What a device sees of a whole run. -/
inductive Traces : Prog S α → List (Exchange S) → α → Prop
  | done (value : α) : Traces (.done value) [] value
  | call {op : S.Op} {next : S.Reply op → Prog S α} (reply : S.Reply op) {rest : List (Exchange S)} {value : α}
    (later : Traces (next reply) rest value) : Traces (.call op next) (⟨op, reply⟩ :: rest) value

theorem traces_pure {value result : α} {trace : List (Exchange S)} (run : (pure value : Prog S α).Traces trace result) :
    trace = [] ∧ result = value := by
  cases run
  exact ⟨rfl, rfl⟩

theorem traces_request {op : S.Op} {trace : List (Exchange S)} {reply : S.Reply op}
    (run : (request op).Traces trace reply) : trace = [⟨op, reply⟩] := by
  cases run with
  | call reply later =>
    cases later
    rfl

theorem traces_bind {program : Prog S α} {rest : α → Prog S β} {trace : List (Exchange S)} {result : β}
    (run : (program >>= rest).Traces trace result) : ∃ before value after, program.Traces before value ∧
      (rest value).Traces after result ∧ trace = before ++ after := by
  induction program generalizing trace with
  | done value => exact ⟨[], value, trace, .done value, run, rfl⟩
  | call op next ih =>
    cases run with
    | call reply later =>
      obtain ⟨before, value, after, first, second, same⟩ := ih reply later
      exact ⟨⟨op, reply⟩ :: before, value, after, .call reply first, second, congrArg _ same⟩

theorem Traces.unique {program : Prog S α} {trace : List (Exchange S)} {result other : α}
    (run : program.Traces trace result) (again : program.Traces trace other) : result = other := by
  induction run with
  | done value =>
    cases again
    rfl
  | call reply later ih =>
    cases again with
    | call reply later => exact ih later

theorem Asks.traces {allowed : S.Op → Prop} {program : Prog S α} {trace : List (Exchange S)} {result : α}
    (asks : program.Asks allowed) (run : program.Traces trace result) : ∀ exchange ∈ trace, allowed exchange.1 := by
  induction run with
  | done value => exact fun _ none => absurd none List.not_mem_nil
  | call reply later ih =>
    intro exchange member
    rcases List.mem_cons.mp member with rfl | member
    · exact asks.1
    · exact ih (asks.2 reply) exchange member

def exchanges {σ : Type} (handle : σ → (op : S.Op) → S.Reply op × σ) : Prog S α → σ → List (Exchange S)
  | .done _, _ => []
  | .call op next, state => ⟨op, (handle state op).1⟩ :: exchanges handle (next (handle state op).1) (handle state op).2

theorem exchanges_bind {σ : Type} (handle : σ → (op : S.Op) → S.Reply op × σ) (program : Prog S α)
    (rest : α → Prog S β) (state : σ) :
    (program >>= rest).exchanges handle state =
      program.exchanges handle state ++ (rest (program.exec handle state).1).exchanges handle (program.exec handle state).2 := by
  induction program generalizing state with
  | done value => rfl
  | call op next ih => exact congrArg _ (ih _ _)

theorem traces_exchanges {σ : Type} (handle : σ → (op : S.Op) → S.Reply op × σ) (program : Prog S α) (state : σ) :
    program.Traces (program.exchanges handle state) (program.exec handle state).1 := by
  induction program generalizing state with
  | done value => exact .done value
  | call op next ih => exact .call _ (ih _ _)

end Device.Prog
