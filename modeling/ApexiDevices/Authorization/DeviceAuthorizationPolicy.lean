import ApexiDevices.Shared.ArduinoJson
import Mathlib.Algebra.Group.Nat.Even

set_option autoImplicit false

namespace ApexiDevices.DeviceAuthorizationPolicy

open Device

def printable (text : ArduinoString) (minimum maximum : Nat) : Bool :=
  minimum ≤ text.length && text.length ≤ maximum &&
    text.chars.all fun char => !(char.toNat < 0x21 || 0x7e < char.toNat)

def deviceId (text : ArduinoString) : Bool :=
  !text.isEmpty && text.length ≤ 63 &&
    text.chars.all fun char =>
      ('a' ≤ char && char ≤ 'z') || ('0' ≤ char && char ≤ '9') || char == '-' || char == '_'

def hexDigit (char : Char) : Bool := ('0' ≤ char && char ≤ '9') || ('a' ≤ char && char ≤ 'f')

def hex (text : ArduinoString) (length : Nat) : Bool := text.length == length && text.chars.all hexDigit

def dashed (index : Nat) : Bool := index == 8 || index == 13 || index == 18 || index == 23

def uuid (text : ArduinoString) : Bool :=
  text.length == 36 &&
    text.chars.zipIdx.all fun (char, index) => if dashed index then char == '-' else hexDigit char

/-- The digit of a nibble as `%x` prints it. -/
def nibble (value : Nat) : Char := ("0123456789abcdef".toList)[value % 16]!

/-- `esp32-%012llx` of the lower 48 bits. -/
def hardwareId (mac : UInt64) : ArduinoString :=
  .of ("esp32-" ++ String.ofList ((List.range 12).map fun digit => nibble (mac.toNat / 16 ^ (11 - digit))))

def elapsed (now start duration : UInt32) : Bool := duration ≤ now - start

def pollDelay (seconds : UInt32) : UInt32 :=
  if seconds < 5 then 5000 else if 60 < seconds then 60000 else seconds * 1000

theorem printable_ne_empty {text : ArduinoString} {minimum maximum : Nat}
    (valid : printable text minimum maximum = true) (positive : 0 < minimum) : text ≠ .empty := by
  rintro rfl
  simp only [printable, Bool.and_eq_true, decide_eq_true_eq] at valid
  have none : ArduinoString.empty.length = 0 := rfl
  omega

theorem deviceId_ne_empty {text : ArduinoString} (valid : deviceId text = true) : text ≠ .empty := by
  rintro rfl
  cases valid

theorem uuid_length {text : ArduinoString} (valid : uuid text = true) : text.length = 36 := by
  rw [uuid, Bool.and_eq_true, beq_iff_eq] at valid
  exact valid.1

theorem hexDigit_ascii {char : Char} (digit : hexDigit char = true) : char.toNat ≤ 0x7f := by
  simp only [hexDigit, Bool.or_eq_true, Bool.and_eq_true, decide_eq_true_eq, Char.le_def,
    UInt32.le_iff_toNat_le] at digit
  rw [Char.toNat]
  have nine : ('9' : Char).val.toNat = 0x39 := rfl
  have f : ('f' : Char).val.toNat = 0x66 := rfl
  omega

theorem hex_of_digits {text : ArduinoString} (digits : text.chars.all hexDigit = true) :
    hex text text.chars.length = true := by
  have ascii : ∀ char ∈ text.chars, char.toNat ≤ 0x7f := fun char member =>
    hexDigit_ascii (List.all_eq_true.mp digits char member)
  rw [hex, ArduinoString.length_of_ascii ascii, beq_self_eq_true, Bool.true_and, digits]

theorem nibble_hexDigit (value : Nat) : hexDigit (nibble value) = true := by
  have each : ∀ low < 16, hexDigit (("0123456789abcdef".toList)[low]!) = true := by decide
  exact each _ (Nat.mod_lt _ (by decide))

theorem group_hex {group : List Char} {start : Nat} (digits : group.all hexDigit = true)
    (undashed : ∀ index, start ≤ index → index < start + group.length → dashed index = false) :
    (group.zipIdx start).all (fun (char, index) => if dashed index then char == '-' else hexDigit char) =
      true := by
  induction group generalizing start with
  | nil => rfl
  | cons char rest ih =>
    rw [List.all_cons, Bool.and_eq_true] at digits
    have here : dashed start = false := undashed start (Nat.le_refl _) (by simp)
    have later : ∀ index, start + 1 ≤ index → index < start + 1 + rest.length → dashed index = false := by
      intro index after inside
      apply undashed index (by omega)
      rw [List.length_cons]
      omega
    rw [List.zipIdx_cons, List.all_cons, ih digits.2 later, Bool.and_true]
    simpa [here] using digits.1

theorem hexDigit_terminated {char : Char} (digit : hexDigit char = true) : char ≠ '\x00' := by
  rintro rfl
  exact absurd digit (by decide)

theorem hex_cut {digits : List Char} (hexadecimal : digits.all hexDigit = true) :
    hex (.cut digits) digits.length = true := by
  have whole : (ArduinoString.cut digits).chars = digits := ArduinoString.cut_chars fun nul =>
    hexDigit_terminated (List.all_eq_true.mp hexadecimal _ nul) rfl
  have valid := @hex_of_digits (.cut digits) (whole.symm ▸ hexadecimal)
  rwa [whole] at valid

theorem uuid_cut {a b c d e : List Char}
    (lengths : a.length = 8 ∧ b.length = 4 ∧ c.length = 4 ∧ d.length = 4 ∧ e.length = 12)
    (digits : (a ++ (b ++ (c ++ (d ++ e)))).all hexDigit = true) :
    uuid (.cut (a ++ '-' :: (b ++ '-' :: (c ++ '-' :: (d ++ '-' :: e))))) = true := by
  obtain ⟨la, lb, lc, ld, le⟩ := lengths
  simp only [List.all_append, Bool.and_eq_true] at digits
  obtain ⟨da, db, dc, dd, de⟩ := digits
  generalize same : a ++ '-' :: (b ++ '-' :: (c ++ '-' :: (d ++ '-' :: e))) = text
  have each : ∀ char ∈ text, hexDigit char = true ∨ char = '-' := by
    intro char member
    rw [← same] at member
    simp only [List.mem_append, List.mem_cons] at member
    grind
  have whole : (ArduinoString.cut text).chars = text := ArduinoString.cut_chars fun nul => by
    rcases each _ nul with digit | dash
    · exact hexDigit_terminated digit rfl
    · cases dash
  have ascii : ∀ char ∈ (ArduinoString.cut text).chars, char.toNat ≤ 0x7f := by
    intro char member
    rcases each char (whole ▸ member) with digit | rfl
    · exact hexDigit_ascii digit
    · decide
  have size : (ArduinoString.cut text).length = 36 := by
    rw [ArduinoString.length_of_ascii ascii, whole, ← same]
    simp [la, lb, lc, ld, le]
  have group (digits : List Char) (start size : Nat) (hexadecimal : digits.all hexDigit = true)
      (length : digits.length = size)
      (undashed : ∀ index < start + size, start ≤ index → dashed index = false) :
      (digits.zipIdx start).all (fun (char, index) => if dashed index then char == '-' else hexDigit char) =
        true :=
    group_hex hexadecimal fun index after before => undashed index (length ▸ before) after
  have ga := group a 0 8 da la (by decide)
  have gb := group b 9 4 db lb (by decide)
  have gc := group c 14 4 dc lc (by decide)
  have gd := group d 19 4 dd ld (by decide)
  have ge := group e 24 12 de le (by decide)
  rw [uuid, size, whole, ← same]
  simp only [List.zipIdx_append, List.zipIdx_cons, List.all_append, List.all_cons, la, lb, lc, ld, Nat.zero_add,
    Nat.reduceAdd, ga, gb, gc, gd, ge]
  rfl

end ApexiDevices.DeviceAuthorizationPolicy
