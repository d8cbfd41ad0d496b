import Mathlib.Tactic.Common

set_option autoImplicit false

/-!
# Calls that may raise, one after the other
-/

namespace Device

variable {ε α β : Type} {first : Except ε α} {rest : α → Except ε β}

theorem bind_ok {result : β} (ran : first >>= rest = .ok result) :
    ∃ value, first = .ok value ∧ rest value = .ok result := by
  cases first with
  | error raised => cases ran
  | ok value => exact ⟨value, rfl, ran⟩

theorem bind_of_ok {value : α} (ran : first = .ok value) (other : ∃ result, rest value = .ok result) :
    ∃ result, first >>= rest = .ok result := by
  subst ran
  exact other

end Device
