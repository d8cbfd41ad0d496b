import Mathlib.Algebra.Ring.Nat
import Mathlib.Data.List.Infix

set_option autoImplicit false

/-!
# The longest beginning within a budget

A list is taken from its head while a number of entries and a total cost last.
-/

namespace Device

variable {α : Type} (cost : α → Nat)

def withinBudget : Nat → Nat → List α → List α
  | 0, _, _ => []
  | _ + 1, _, [] => []
  | count + 1, budget, value :: rest =>
    if cost value ≤ budget then value :: withinBudget count (budget - cost value) rest else []

/-- A beginning of bounded length and cost that every other such beginning is a beginning of. -/
structure LongestWithin (count budget : Nat) (values part : List α) : Prop where
  begins : part <+: values
  length : part.length ≤ count
  total : (part.map cost).sum ≤ budget
  longest : ∀ other, other <+: values → other.length ≤ count → (other.map cost).sum ≤ budget → other <+: part

variable {cost}

@[simp] theorem withinBudget_nil (count budget : Nat) : withinBudget cost count budget [] = [] := by
  cases count <;> rfl

@[simp] theorem withinBudget_none (budget : Nat) (values : List α) : withinBudget cost 0 budget values = [] := by
  cases values <;> rfl

theorem withinBudget_longest (count budget : Nat) (values : List α) :
    LongestWithin cost count budget values (withinBudget cost count budget values) := by
  induction values generalizing count budget with
  | nil =>
    rw [withinBudget_nil]
    exact ⟨List.prefix_rfl, Nat.zero_le _, Nat.zero_le _, fun _ begins _ _ => begins⟩
  | cons value rest ih =>
    cases count with
    | zero =>
      rw [withinBudget_none]
      refine ⟨List.nil_prefix, Nat.le_refl _, Nat.zero_le _, fun other _ short _ => ?_⟩
      rw [List.length_eq_zero_iff.mp (Nat.le_zero.mp short)]
    | succ count =>
      rw [withinBudget]
      split
      case isTrue affordable =>
        have later := ih count (budget - cost value)
        refine ⟨List.prefix_cons_inj value |>.mpr later.begins, Nat.succ_le_succ later.length, ?_, ?_⟩
        · have total := later.total
          rw [List.map_cons, List.sum_cons]
          omega
        intro other begins short cheap
        cases other with
        | nil => exact List.nil_prefix
        | cons first more =>
          obtain ⟨rfl, within⟩ := List.cons_prefix_cons.mp begins
          rw [List.map_cons, List.sum_cons] at cheap
          exact List.prefix_cons_inj first |>.mpr
            (later.longest more within (Nat.le_of_succ_le_succ short) (by omega))
      case isFalse expensive =>
        refine ⟨List.nil_prefix, Nat.zero_le _, Nat.zero_le _, fun other begins _ cheap => ?_⟩
        cases other with
        | nil => exact List.nil_prefix
        | cons first more =>
          obtain ⟨rfl, -⟩ := List.cons_prefix_cons.mp begins
          rw [List.map_cons, List.sum_cons] at cheap
          omega

theorem withinBudget_append_of_ne {count budget : Nat} {first : List α}
    (stops : withinBudget cost count budget first ≠ first) (second : List α) :
    withinBudget cost count budget (first ++ second) = withinBudget cost count budget first := by
  induction first generalizing count budget with
  | nil => exact absurd (withinBudget_nil count budget) stops
  | cons value rest ih =>
    cases count with
    | zero => rw [withinBudget_none, withinBudget_none]
    | succ count =>
      rw [withinBudget] at stops
      rw [List.cons_append, withinBudget, withinBudget]
      split
      case isTrue affordable =>
        rw [if_pos affordable] at stops
        rw [ih fun whole => stops (by rw [whole])]
      case isFalse => rfl

theorem withinBudget_append_of_eq {count budget : Nat} {first : List α}
    (whole : withinBudget cost count budget first = first) (second : List α) :
    withinBudget cost count budget (first ++ second) =
      first ++ withinBudget cost (count - first.length) (budget - (first.map cost).sum) second := by
  induction first generalizing count budget with
  | nil => simp
  | cons value rest ih =>
    cases count with
    | zero => cases whole
    | succ count =>
      rw [withinBudget] at whole
      split at whole
      case isTrue affordable =>
        rw [List.cons_append, withinBudget, if_pos affordable, ih (List.cons.inj whole).2, List.cons_append,
          List.length_cons, Nat.add_sub_add_right, List.map_cons, List.sum_cons, Nat.sub_sub]
      case isFalse => cases whole

theorem withinBudget_full {count budget : Nat} {first : List α}
    (full : count ≤ (withinBudget cost count budget first).length) (second : List α) :
    withinBudget cost count budget (first ++ second) = withinBudget cost count budget first := by
  by_cases whole : withinBudget cost count budget first = first
  · rw [whole] at full ⊢
    rw [withinBudget_append_of_eq whole, Nat.sub_eq_zero_of_le full, withinBudget_none, List.append_nil]
  · exact withinBudget_append_of_ne whole second

end Device
