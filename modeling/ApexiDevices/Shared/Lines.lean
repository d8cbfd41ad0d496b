import ApexiDevices.Shared.Bytes

set_option autoImplicit false

/-!
# Lines of a text file

A file is its complete lines and what follows the last newline. Appending bytes
never changes a line that is complete.
-/

namespace Device

structure Lines where
  complete : List Bytes := []
  tail : Bytes := []

/-- No line feed and no carriage return. -/
def Plain (bytes : Bytes) : Prop := ∀ byte ∈ bytes, byte ≠ 10 ∧ byte ≠ 13

instance (bytes : Bytes) : Decidable (Plain bytes) :=
  inferInstanceAs (Decidable (∀ byte ∈ bytes, byte ≠ 10 ∧ byte ≠ 13))

namespace Plain

variable {first second : Bytes}

theorem append (one : Plain first) (two : Plain second) : Plain (first ++ second) := by
  intro byte member
  rcases List.mem_append.mp member with early | late
  · exact one byte early
  · exact two byte late

theorem cons {byte : UInt8} (one : byte ≠ 10 ∧ byte ≠ 13) (rest : Plain second) : Plain (byte :: second) := by
  intro other member
  rcases List.mem_cons.mp member with rfl | later
  · exact one
  · exact rest other later

theorem take (plain : Plain first) (count : Nat) : Plain (first.take count) :=
  fun byte member => plain byte (List.mem_of_mem_take member)

theorem flatMap {α : Type} {items : List α} {text : α → Bytes} (plain : ∀ item ∈ items, Plain (text item)) :
    Plain (items.flatMap text) := by
  intro byte member
  obtain ⟨item, listed, inside⟩ := List.mem_flatMap.mp member
  exact plain item listed byte inside

theorem no_feed (plain : Plain first) : (10 : UInt8) ∉ first := fun member => (plain 10 member).1 rfl

theorem no_return (plain : Plain first) : (13 : UInt8) ∉ first := fun member => (plain 13 member).2 rfl

end Plain

def decimal (value : Nat) : Bytes := (Nat.toDigits 10 value).map fun digit => UInt8.ofNat digit.toNat

theorem decimal_digit {value : Nat} {byte : UInt8} (member : byte ∈ decimal value) : 48 ≤ byte.toNat ∧ byte.toNat ≤ 57 := by
  obtain ⟨digit, listed, rfl⟩ := List.mem_map.mp member
  have isDigit := Nat.isDigit_of_mem_toDigits (by decide) (by decide) listed
  have range : 48 ≤ digit.toNat ∧ digit.toNat ≤ 57 := by
    simp only [Char.isDigit, Bool.and_eq_true, decide_eq_true_eq, ge_iff_le, UInt32.le_iff_toNat_le] at isDigit
    exact isDigit
  rw [UInt8.toNat_ofNat']
  omega

theorem decimal_plain (value : Nat) : Plain (decimal value) := by
  intro byte member
  have range := decimal_digit member
  constructor <;> rintro rfl <;> exact absurd range.1 (by decide)

namespace Lines

def push (lines : Lines) (byte : UInt8) : Lines :=
  if byte = 10 then { complete := lines.complete ++ [lines.tail] } else { lines with tail := lines.tail ++ [byte] }

def append (lines : Lines) (bytes : Bytes) : Lines := bytes.foldl push lines

def of (content : Bytes) : Lines := append {} content

def text (lines : Lines) : Bytes := (lines.complete.flatMap fun line => line ++ [10]) ++ lines.tail

@[simp] theorem of_nil : of [] = {} := rfl

@[simp] theorem append_nil (lines : Lines) : lines.append [] = lines := rfl

theorem append_append (lines : Lines) (first second : Bytes) :
    lines.append (first ++ second) = (lines.append first).append second := List.foldl_append

theorem of_append (first second : Bytes) : of (first ++ second) = (of first).append second :=
  append_append {} first second

theorem append_within (lines : Lines) {bytes : Bytes} (within : (10 : UInt8) ∉ bytes) :
    lines.append bytes = { lines with tail := lines.tail ++ bytes } := by
  induction bytes generalizing lines with
  | nil => simp
  | cons byte rest ih =>
    obtain ⟨here, later⟩ : ¬ (10 : UInt8) = byte ∧ (10 : UInt8) ∉ rest := by simpa using within
    have kept : lines.push byte = { lines with tail := lines.tail ++ [byte] } := if_neg (Ne.symm here)
    change (lines.push byte).append rest = _
    rw [kept, ih _ later, List.append_assoc]
    rfl

theorem append_newline (lines : Lines) : lines.append [10] = { complete := lines.complete ++ [lines.tail] } := rfl

theorem append_line (lines : Lines) {bytes : Bytes} (within : (10 : UInt8) ∉ bytes) :
    lines.append (bytes ++ [10]) = { complete := lines.complete ++ [lines.tail ++ bytes] } := by
  rw [append_append, append_within lines within, append_newline]

theorem complete_append (lines : Lines) (bytes : Bytes) : lines.complete <+: (lines.append bytes).complete := by
  induction bytes generalizing lines with
  | nil => exact List.prefix_rfl
  | cons byte rest ih =>
    refine List.IsPrefix.trans ?_ (ih (lines.push byte))
    unfold push
    split
    · exact List.prefix_append _ _
    · exact List.prefix_rfl

theorem text_push (lines : Lines) (byte : UInt8) : (lines.push byte).text = lines.text ++ [byte] := by
  unfold push text
  split
  · rename_i feed
    simp [feed]
  · simp

theorem text_append (lines : Lines) (bytes : Bytes) : (lines.append bytes).text = lines.text ++ bytes := by
  induction bytes generalizing lines with
  | nil => simp
  | cons byte rest ih =>
    change ((lines.push byte).append rest).text = _
    rw [ih, text_push, List.append_assoc]
    rfl

theorem text_of (content : Bytes) : (of content).text = content := text_append {} content

end Lines

end Device
