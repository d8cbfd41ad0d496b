import ApexiDevices.Shared.Program

set_option autoImplicit false

/-!
# Devices made of parts

A program over one interface runs on a device with several, in the part of the
state that its interface reaches.
-/

namespace Device.Model

variable {S T : Signature} {σ ω α : Type}

def left (W : Model (S.sum T) ω) : Model S ω where
  step state op := W.step state (.inl op)
  torn state op := W.torn state (.inl op)

def right (W : Model (S.sum T) ω) : Model T ω where
  step state op := W.step state (.inr op)
  torn state op := W.torn state (.inr op)

def component (D : Model S σ) (get : ω → σ) (put : ω → σ → ω) : Model S ω where
  step state op reply last := ∃ part, D.step (get state) op reply part ∧ last = put state part
  torn state op last := ∃ part, D.torn (get state) op part ∧ last = put state part

section Rules

variable {W : Model (S.sum T) ω} {post : α → ω → Prop} {crash : ω → Prop}

theorem wp_left {program : Prog S α} {state : ω} :
    W.wp program.left post crash state ↔ W.left.wp program post crash state := by
  induction program generalizing state with
  | done value => exact Iff.rfl
  | call op next ih =>
    exact and_congr_right fun _ => and_congr_right fun _ =>
      forall_congr' fun reply => forall_congr' fun middle => imp_congr_right fun _ => ih reply

theorem wp_right {program : Prog T α} {state : ω} :
    W.wp program.right post crash state ↔ W.right.wp program post crash state := by
  induction program generalizing state with
  | done value => exact Iff.rfl
  | call op next ih =>
    exact and_congr_right fun _ => and_congr_right fun _ =>
      forall_congr' fun reply => forall_congr' fun middle => imp_congr_right fun _ => ih reply

variable {D : Model S σ} {get : ω → σ} {put : ω → σ → ω}

theorem wp_component (get_put : ∀ state part, get (put state part) = part)
    (put_put : ∀ state part other, put (put state part) other = put state other)
    (put_get : ∀ state, put state (get state) = state) {program : Prog S α} {state : ω}
    (h : D.wp program (fun value part => post value (put state part)) (fun part => crash (put state part)) (get state)) :
    (D.component get put).wp program post crash state := by
  induction program generalizing state with
  | done value =>
    obtain ⟨crashed, posted⟩ := h
    rw [put_get] at crashed posted
    exact ⟨crashed, posted⟩
  | call op next ih =>
    obtain ⟨crashed, torn, later⟩ := h
    rw [put_get] at crashed
    refine ⟨crashed, ?_, ?_⟩
    · rintro last ⟨part, tears, rfl⟩
      exact torn part tears
    · rintro reply middle ⟨part, step, rfl⟩
      apply ih reply
      simpa only [get_put, put_put] using later reply part step

end Rules

section Handlers

variable {A : Type} {handle : ω → (op : (S.sum T).Op) → (S.sum T).Reply op × ω}

theorem exec_left (program : Prog S A) (state : ω) :
    program.left.exec handle state = program.exec (fun state op => handle state (.inl op)) state := by
  induction program generalizing state with
  | done value => rfl
  | call op next ih => exact ih _ _

theorem exec_right (program : Prog T A) (state : ω) :
    program.right.exec handle state = program.exec (fun state op => handle state (.inr op)) state := by
  induction program generalizing state with
  | done value => rfl
  | call op next ih => exact ih _ _

variable {part : σ → (op : S.Op) → S.Reply op × σ} {get : ω → σ} {put : ω → σ → ω}

theorem exec_component (get_put : ∀ state part, get (put state part) = part)
    (put_put : ∀ state part other, put (put state part) other = put state other)
    (put_get : ∀ state, put state (get state) = state) (program : Prog S A) (state : ω) :
    program.exec (fun state op => ((part (get state) op).1, put state (part (get state) op).2)) state =
      ((program.exec part (get state)).1, put state (program.exec part (get state)).2) := by
  induction program generalizing state with
  | done value => exact Prod.ext rfl (put_get state).symm
  | call op next ih =>
    refine (ih _ _).trans ?_
    rw [get_put, put_put]
    rfl

end Handlers

end Device.Model
