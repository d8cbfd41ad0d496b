import Mathlib.Data.List.Infix

set_option autoImplicit false

/-!
# Slices of a sequence that only grows
-/

namespace Device

variable {α : Type}

/-- At most `width` entries from `offset` on. -/
def slice (values : List α) (offset width : Nat) : List α := (values.drop offset).take width

@[simp] theorem slice_length (values : List α) (offset width : Nat) :
    (slice values offset width).length = min width (values.length - offset) := by
  rw [slice, List.length_take, List.length_drop]

theorem slice_prefix {before after : List α} (grown : before <+: after) (offset width : Nat) :
    slice after offset (min width (before.length - offset)) = slice before offset width := by
  obtain ⟨rest, rfl⟩ := grown
  unfold slice
  by_cases inside : offset ≤ before.length
  · rw [List.drop_append_of_le_length inside, List.take_append_of_le_length (by rw [List.length_drop]; omega),
      ← List.take_take, ← List.length_drop, List.take_length]
  · rw [@List.drop_eq_nil_of_le _ before _ (by omega), Nat.sub_eq_zero_of_le (by omega)]
    simp

theorem flatMap_slices (values : List α) (width count : Nat) :
    (List.range count).flatMap (fun part => slice values (width * part) width) = values.take (width * count) := by
  induction count with
  | zero => simp
  | succ count ih =>
    rw [List.range_succ, List.flatMap_append, ih, List.flatMap_singleton, slice, Nat.mul_succ, List.take_add]

theorem flatMap_slices_whole {values : List α} {width count : Nat} (enough : values.length ≤ width * count) :
    (List.range count).flatMap (fun part => slice values (width * part) width) = values := by
  rw [flatMap_slices, List.take_of_length_le enough]

end Device
