import Mathlib.Data.List.Basic
import Mathlib.Logic.Function.Basic

set_option autoImplicit false

/-!
# Circular buffers

The entries in use are the window of `count` slots behind `start`. A counter
that runs on past the capacity names the same slots as its remainder.
-/

namespace Device

variable {α : Type} {capacity : Nat} {slots : Nat → α} {start count : Nat} {value : α}

def window (capacity : Nat) (slots : Nat → α) (start count : Nat) : List α :=
  (List.range count).map fun offset => slots ((start + offset) % capacity)

@[simp] theorem window_length : (window capacity slots start count).length = count := by
  simp [window]

@[simp] theorem window_zero : window capacity slots start 0 = [] := rfl

theorem window_mod : window capacity slots (start % capacity) count = window capacity slots start count := by
  simp [window]

theorem window_succ :
    window capacity slots start (count + 1) =
      slots (start % capacity) :: window capacity slots (start + 1) count := by
  simp only [window, List.range_succ_eq_map, List.map_cons, List.map_map, Nat.add_zero]
  congr 1
  apply List.map_congr_left
  intro offset _
  simp only [Function.comp_apply, Nat.succ_eq_add_one]
  congr 2
  omega

theorem window_congr {other : Nat → α}
    (same : ∀ offset, offset < count → other ((start + offset) % capacity) = slots ((start + offset) % capacity)) :
    window capacity other start count = window capacity slots start count := by
  apply List.map_congr_left
  intro offset listed
  exact same offset (List.mem_range.mp listed)

theorem slot_ne {first second : Nat} (apart : first < second) (near : second < first + capacity) :
    (start + first) % capacity ≠ (start + second) % capacity := by
  intro same
  have remainder := Nat.sub_mod_eq_zero_of_mod_eq same.symm
  rw [show start + second - (start + first) = second - first by omega] at remainder
  rw [Nat.mod_eq_of_lt (by omega)] at remainder
  omega

theorem window_put (room : count < capacity) :
    window capacity (Function.update slots ((start + count) % capacity) value) start (count + 1) =
      window capacity slots start count ++ [value] := by
  rw [window, List.range_succ, List.map_append, List.map_singleton, Function.update_self]
  congr 1
  apply window_congr
  intro offset inside
  have apart : (start + offset) % capacity ≠ (start + count) % capacity := slot_ne inside (by omega)
  exact Function.update_of_ne apart value slots

theorem window_clear (room : count < capacity) :
    window capacity (Function.update slots (start % capacity) value) (start + 1) count =
      window capacity slots (start + 1) count := by
  apply window_congr
  intro offset inside
  rw [show start + 1 + offset = start + (offset + 1) by omega]
  have apart : (start + 0) % capacity ≠ (start + (offset + 1)) % capacity :=
    slot_ne (Nat.succ_pos offset) (by omega)
  exact Function.update_of_ne apart.symm value slots

end Device
