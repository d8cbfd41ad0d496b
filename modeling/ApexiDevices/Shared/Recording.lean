import ApexiDevices.Shared.Program

set_option autoImplicit false

/-!
# Recorded runs and programs over programs

A recording device answers anything and keeps what was asked. `Prog.through`
replaces every request of a program by a program of the interface below it; a
specification of the replacements carries over to the whole program.
-/

namespace Device

variable {S T : Signature} {σ τ μ α : Type}

section Trace

variable {ε : Type}

theorem split_snoc {trace before after : List ε} {event last : ε}
    (same : trace ++ [last] = before ++ event :: after) :
    (after = [] ∧ event = last ∧ trace = before) ∨
      ∃ earlier, after = earlier ++ [last] ∧ trace = before ++ event :: earlier := by
  rcases List.eq_nil_or_concat after with rfl | ⟨earlier, final, rfl⟩
  · obtain ⟨rfl, ends⟩ := List.append_inj' same rfl
    exact .inl ⟨rfl, (List.singleton_inj.mp ends).symm, rfl⟩
  · rw [List.concat_eq_append] at same ⊢
    have regrouped : trace ++ [last] = (before ++ event :: earlier) ++ [final] := by simpa using same
    obtain ⟨rfl, ends⟩ := List.append_inj' regrouped rfl
    exact .inr ⟨earlier, by rw [List.singleton_inj.mp ends], rfl⟩

/-- Every event of the trace stands in `allowed` to what precedes it. -/
def Preceded (allowed : List ε → ε → Prop) (trace : List ε) : Prop :=
  ∀ before event after, trace = before ++ event :: after → allowed before event

variable {allowed : List ε → ε → Prop}

theorem preceded_nil : Preceded allowed [] := by
  intro before event after impossible
  exact absurd impossible (by simp)

theorem Preceded.snoc {trace : List ε} (preceded : Preceded allowed trace) {last : ε}
    (fresh : allowed trace last) : Preceded allowed (trace ++ [last]) := by
  intro before event after same
  rcases split_snoc same with ⟨-, rfl, rfl⟩ | ⟨earlier, -, split⟩
  · exact fresh
  · exact preceded before event earlier split

end Trace

structure Signature.Exchange (S : Signature) where
  op : S.Op
  reply : S.Reply op

namespace Model

def recording (S : Signature) : Model S (List S.Exchange) where
  step trace op reply last := last = trace ++ [⟨op, reply⟩]
  torn trace _ last := last = trace

theorem wp_record {trace : List S.Exchange} {op : S.Op} {post : S.Reply op → List S.Exchange → Prop}
    {crash : List S.Exchange → Prop} (before : crash trace)
    (answered : ∀ reply, crash (trace ++ [⟨op, reply⟩]) ∧ post reply (trace ++ [⟨op, reply⟩])) :
    (recording S).wp (Prog.request op) post crash trace := by
  refine ⟨before, fun last torn => torn ▸ before, ?_⟩
  rintro reply last rfl
  exact answered reply

/-- The recording device that gives every request its one answer. -/
def answering (answer : (op : S.Op) → S.Reply op) (trace : List S.Exchange) (op : S.Op) :
    S.Reply op × List S.Exchange := (answer op, trace ++ [⟨op, answer op⟩])

theorem runs_answering (answer : (op : S.Op) → S.Reply op) (program : Prog S α)
    (trace : List S.Exchange) :
    (recording S).Runs program trace (program.exec (answering answer) trace).1
      (program.exec (answering answer) trace).2 :=
  runs_of_handler (fun _ _ => rfl) program trace

end Model

namespace Prog

/-- Every request is carried out by a program below, whose memory is passed along. -/
def through (implement : μ → (op : S.Op) → Prog T (S.Reply op × μ)) : Prog S α → μ → Prog T (α × μ)
  | .done value, memory => .done (value, memory)
  | .call op next, memory =>
    (implement memory op).bind fun answer => (next answer.1).through implement answer.2

end Prog

namespace Model

variable {D : Model S σ} {E : Model T τ} {implement : μ → (op : S.Op) → Prog T (S.Reply op × μ)}

/-- `related` relates the upper device to the memory and the lower device that implement it. -/
def Implements (D : Model S σ) (E : Model T τ) (implement : μ → (op : S.Op) → Prog T (S.Reply op × μ))
    (related : σ → μ → τ → Prop) (crash : τ → Prop) : Prop :=
  ∀ state memory below op, related state memory below →
    E.wp (implement memory op)
      (fun answer last => ∃ next, D.step state op answer.1 next ∧ related next answer.2 last) crash below

theorem Implements.wp_through {related : σ → μ → τ → Prop} {crash : τ → Prop}
    (implements : Implements D E implement related crash) {program : Prog S α} {post : α → σ → Prop}
    {torn : σ → Prop} {state : σ} {memory : μ} {below : τ} (upper : D.wp program post torn state)
    (start : related state memory below)
    (crashes : ∀ state memory below, related state memory below → crash below) :
    E.wp (program.through implement memory)
      (fun answer last => ∃ next, post answer.1 next ∧ related next answer.2 last) crash below := by
  induction program generalizing state memory below with
  | done value => exact ⟨crashes _ _ _ start, state, upper.2, start⟩
  | call op next ih =>
    refine wp_bind.mpr (wp_mono (implements state memory below op start) ?_ fun _ same => same)
    rintro ⟨reply, memory⟩ last ⟨middle, step, kept⟩
    exact ih reply (upper.2.2 reply middle step) kept

end Model

end Device
