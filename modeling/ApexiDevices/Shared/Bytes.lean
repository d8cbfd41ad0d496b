import Mathlib.Algebra.Group.Nat.Even
import Mathlib.Data.List.Basic
import Mathlib.Tactic.Common
import Mathlib.Tactic.Ring

set_option autoImplicit false

namespace Device

abbrev Bytes := List UInt8

/-- The bytes of an ASCII literal of the source. -/
def ascii (text : String) : Bytes := text.toList.map fun char => UInt8.ofNat char.toNat

/-- Whatever else could decide it, a check of a list runs over the list. -/
instance (priority := 2000) decidableForallMem {A : Type} (holds : A → Prop) [DecidablePred holds] (list : List A) :
    Decidable (∀ value ∈ list, holds value) :=
  List.decidableBAll holds list

/-- One law for every membership test in a list of byte strings. -/
instance lawfulBEqBytes : LawfulBEq Bytes := inferInstance

/-- An unsigned integer of the given width as the target stores it in memory. -/
def littleEndian : Nat → Nat → Bytes
  | 0, _ => []
  | width + 1, value => UInt8.ofNat value :: littleEndian width (value / 256)

def ofLittleEndian : Bytes → Nat
  | [] => 0
  | byte :: rest => byte.toNat + 256 * ofLittleEndian rest

@[simp] theorem littleEndian_length (width value : Nat) :
    (littleEndian width value).length = width := by
  induction width generalizing value with
  | zero => rfl
  | succ width ih => simp [littleEndian, ih]

theorem ofLittleEndian_littleEndian (width value : Nat) (fits : value < 256 ^ width) :
    ofLittleEndian (littleEndian width value) = value := by
  induction width generalizing value with
  | zero => simp at fits; simp [littleEndian, ofLittleEndian, fits]
  | succ width ih =>
    have smaller : value / 256 < 256 ^ width := by
      rw [Nat.div_lt_iff_lt_mul (by decide)]
      simpa [pow_succ] using fits
    simp only [littleEndian, ofLittleEndian, ih _ smaller, UInt8.toNat_ofNat']
    omega

theorem littleEndian_ofLittleEndian (bytes : Bytes) :
    littleEndian bytes.length (ofLittleEndian bytes) = bytes := by
  induction bytes with
  | nil => rfl
  | cons byte rest ih =>
    have low : UInt8.ofNat (byte.toNat + 256 * ofLittleEndian rest) = byte := by
      apply UInt8.toNat_inj.mp
      rw [UInt8.toNat_ofNat']
      have := byte.toNat_lt
      omega
    have high : (byte.toNat + 256 * ofLittleEndian rest) / 256 = ofLittleEndian rest := by
      have := byte.toNat_lt
      omega
    rw [List.length_cons, ofLittleEndian, littleEndian, low, high, ih]

theorem ofLittleEndian_lt (bytes : Bytes) : ofLittleEndian bytes < 256 ^ bytes.length := by
  induction bytes with
  | nil => simp [ofLittleEndian]
  | cons byte rest ih =>
    have := byte.toNat_lt
    rw [List.length_cons, ofLittleEndian, pow_succ]
    omega

end Device
