import ApexiDevices.Shared.Bytes
import Mathlib.Data.List.TakeWhile

set_option autoImplicit false

/-!
# Values of fixed width in memory

A codec lays a value out as a fixed number of bytes; layouts are composed field
by field. A text ends at the first NUL of the array or buffer it lies in.
-/

namespace Device

structure Codec (A : Type) where
  width : Nat
  encode : A → Bytes
  decode : Bytes → A
  encode_length : ∀ value, (encode value).length = width
  decode_encode : ∀ value rest, decode (encode value ++ rest) = value

namespace Codec

variable {A B : Type}

def uint8 : Codec UInt8 where
  width := 1
  encode value := [value]
  decode bytes := bytes.headD 0
  encode_length _ := rfl
  decode_encode _ _ := rfl

def uint16 : Codec UInt16 where
  width := 2
  encode value := littleEndian 2 value.toNat
  decode bytes := UInt16.ofNat (ofLittleEndian (bytes.take 2))
  encode_length value := littleEndian_length 2 _
  decode_encode value rest := by
    have whole : (littleEndian 2 value.toNat ++ rest).take 2 = littleEndian 2 value.toNat :=
      List.take_left' (littleEndian_length 2 _)
    rw [whole, ofLittleEndian_littleEndian 2 _ value.toNat_lt, UInt16.ofNat_toNat]

def uint32 : Codec UInt32 where
  width := 4
  encode value := littleEndian 4 value.toNat
  decode bytes := UInt32.ofNat (ofLittleEndian (bytes.take 4))
  encode_length value := littleEndian_length 4 _
  decode_encode value rest := by
    have whole : (littleEndian 4 value.toNat ++ rest).take 4 = littleEndian 4 value.toNat :=
      List.take_left' (littleEndian_length 4 _)
    rw [whole, ofLittleEndian_littleEndian 4 _ value.toNat_lt, UInt32.ofNat_toNat]

def pair (first : Codec A) (second : Codec B) : Codec (A × B) where
  width := first.width + second.width
  encode value := first.encode value.1 ++ second.encode value.2
  decode bytes := (first.decode bytes, second.decode (bytes.drop first.width))
  encode_length value := by rw [List.length_append, first.encode_length, second.encode_length]
  decode_encode value rest := by
    have skipped : (first.encode value.1 ++ (second.encode value.2 ++ rest)).drop first.width =
        second.encode value.2 ++ rest := List.drop_left' (first.encode_length _)
    rw [List.append_assoc, first.decode_encode, skipped, second.decode_encode]

/-- A structure laid out as the tuple of its fields. -/
def fields (codec : Codec A) (build : A → B) (parts : B → A) (whole : ∀ value, build (parts value) = value) :
    Codec B where
  width := codec.width
  encode value := codec.encode (parts value)
  decode bytes := build (codec.decode bytes)
  encode_length value := codec.encode_length _
  decode_encode value rest := by rw [codec.decode_encode, whole]

end Codec

structure CText where
  bytes : Bytes
  ends : 0 ∉ bytes
  deriving DecidableEq

namespace CText

@[ext] theorem ext {first second : CText} (same : first.bytes = second.bytes) : first = second := by
  cases first
  cases second
  cases same
  rfl

/-- The text in front of the first NUL. -/
def of (bytes : Bytes) : CText where
  bytes := bytes.takeWhile (· != 0)
  ends member := by simpa using List.mem_takeWhile_imp member

theorem of_eq {bytes : Bytes} (ends : 0 ∉ bytes) : of bytes = ⟨bytes, ends⟩ := by
  apply ext
  rw [of, List.takeWhile_eq_self_iff]
  intro byte member
  simpa using fun zero : byte = 0 => ends (zero ▸ member)

@[simp] theorem of_bytes (text : CText) : of text.bytes = text := of_eq text.ends

theorem of_zeros (text : CText) (count : Nat) : of (text.bytes ++ List.replicate count 0) = text := by
  have whole : text.bytes.takeWhile (· != 0) = text.bytes := congrArg bytes (of_bytes text)
  have ended : (List.replicate count (0 : UInt8)).takeWhile (· != 0) = [] := by
    cases count with
    | zero => rfl
    | succ count => simp [List.replicate_succ]
  apply ext
  change (text.bytes ++ List.replicate count 0).takeWhile (· != 0) = text.bytes
  rw [List.takeWhile_append, whole, if_pos rfl, ended, List.append_nil]

def literal (text : String) : CText := of (ascii text)

/-- The text with one character for each byte. -/
def string (text : CText) : String := String.ofList (text.bytes.map fun byte => Char.ofNat byte.toNat)

@[simp] theorem literal_string (text : CText) : literal text.string = text := by
  have bytes : ascii text.string = text.bytes := by
    rw [ascii, string, String.toList_ofList, List.map_map]
    refine (List.map_congr_left fun byte _ => ?_).trans (List.map_id _)
    have valid : byte.toNat.isValidChar := .inl (by have := byte.toNat_lt; omega)
    have char : (Char.ofNat byte.toNat).toNat = byte.toNat := by
      rw [Char.ofNat, dif_pos valid]
      rfl
    rw [Function.comp_apply, char, UInt8.ofNat_toNat, id]
  rw [literal, bytes, of_bytes]

def empty : CText := ⟨[], List.not_mem_nil⟩

instance : Inhabited CText := ⟨empty⟩

theorem eq_empty {text : CText} : text = empty ↔ text.bytes = [] :=
  ⟨fun none => congrArg bytes none, fun none => ext none⟩

/-- What an array of the given size has room for, with a NUL behind it. -/
def clipped (text : CText) (capacity : Nat) : CText where
  bytes := text.bytes.take (capacity - 1)
  ends member := text.ends (List.mem_of_mem_take member)

theorem clipped_length (text : CText) (capacity : Nat) : (text.clipped capacity).bytes.length ≤ capacity - 1 := by
  rw [clipped, List.length_take]
  exact Nat.min_le_left _ _

theorem clipped_eq_self {text : CText} {capacity : Nat} :
    text.clipped capacity = text ↔ text.bytes.length ≤ capacity - 1 := by
  constructor
  · intro same
    rw [← same]
    exact clipped_length text capacity
  · intro fits
    exact ext (List.take_of_length_le fits)

end CText

structure Chars (capacity : Nat) where
  bytes : Bytes
  size : bytes.length = capacity
  deriving DecidableEq

namespace Chars

variable {capacity : Nat}

/-- Bytes cut or filled with zeros to the size of the array. -/
def ofBytes (capacity : Nat) (bytes : Bytes) : Chars capacity where
  bytes := (bytes ++ List.replicate capacity 0).take capacity
  size := by simp

def codec (capacity : Nat) : Codec (Chars capacity) where
  width := capacity
  encode := bytes
  decode := ofBytes capacity
  encode_length := size
  decode_encode chars rest := by
    obtain ⟨bytes, size⟩ := chars
    simp [ofBytes, List.append_assoc, List.take_left' size]

def text (chars : Chars capacity) : CText := .of chars.bytes

/-- `strncpy` of one byte less than the size into an array of zeros. -/
def copy (capacity : Nat) (source : CText) : Chars capacity := ofBytes capacity (source.clipped capacity).bytes

/-- A text of at least one byte that ends inside the array. -/
def holdsText (chars : Chars capacity) : Bool :=
  chars.bytes.headD 0 != 0 && chars.bytes.getLastD 0 == 0

theorem copy_bytes (positive : 0 < capacity) (source : CText) :
    (copy capacity source).bytes = (source.clipped capacity).bytes ++
      List.replicate (capacity - (source.clipped capacity).bytes.length) 0 := by
  have short := source.clipped_length capacity
  have bytes : (copy capacity source).bytes =
    ((source.clipped capacity).bytes ++ List.replicate capacity 0).take capacity := rfl
  rw [bytes, List.take_append, List.take_of_length_le (by omega), List.take_replicate,
    Nat.min_eq_left (Nat.sub_le _ _)]

@[simp] theorem text_copy (positive : 0 < capacity) (source : CText) :
    (copy capacity source).text = source.clipped capacity := by
  rw [text, copy_bytes positive, CText.of_zeros]

theorem copy_ended (positive : 0 < capacity) (source : CText) : (copy capacity source).bytes.getLastD 0 = 0 := by
  have short := source.clipped_length capacity
  obtain ⟨more, some⟩ : ∃ more, capacity - (source.clipped capacity).bytes.length = more + 1 :=
    ⟨capacity - (source.clipped capacity).bytes.length - 1, by omega⟩
  rw [copy_bytes positive, some, List.replicate_succ', ← List.append_assoc, List.getLastD_concat]

theorem holdsText_copy (positive : 1 < capacity) (source : CText) :
    (copy capacity source).holdsText = !source.bytes.isEmpty := by
  have room : 0 < capacity := by omega
  rw [holdsText, copy_ended room, beq_self_eq_true, Bool.and_true, copy_bytes room]
  obtain ⟨bytes, ends⟩ := source
  cases bytes with
  | nil =>
    obtain ⟨less, rfl⟩ : ∃ less, capacity = less + 1 := ⟨capacity - 1, by omega⟩
    simp [CText.clipped, List.replicate_succ]
  | cons byte rest =>
    have first : byte ≠ 0 := fun zero => ends (zero ▸ List.mem_cons_self)
    obtain ⟨less, rfl⟩ : ∃ less, capacity = less + 2 := ⟨capacity - 2, by omega⟩
    simp [CText.clipped, first]

theorem text_ne_empty {chars : Chars capacity} (holds : chars.holdsText = true) : chars.text ≠ .empty := by
  obtain ⟨bytes, size⟩ := chars
  rw [holdsText, Bool.and_eq_true] at holds
  intro none
  cases bytes with
  | nil => simp at holds
  | cons byte rest =>
    have first : byte ≠ 0 := by simpa using holds.1
    simp [text, CText.of, CText.empty, first] at none

theorem text_length {chars : Chars capacity} (last : chars.bytes.getLastD 0 = 0) :
    chars.text.bytes.length ≤ capacity - 1 := by
  obtain ⟨bytes, rfl⟩ := chars
  have part : (CText.of bytes).bytes <+: bytes := List.takeWhile_prefix _
  by_cases none : bytes = []
  case pos =>
    subst none
    exact Nat.le_refl 0
  apply Nat.le_sub_one_of_lt
  apply Nat.lt_of_le_of_ne part.length_le
  intro whole
  have same : (CText.of bytes).bytes = bytes := part.eq_of_length whole
  -- A text that fills its array would end in the NUL that is its last byte.
  have ends : bytes.getLast none = 0 := by
    rw [List.getLastD_eq_getLast?, List.getLast?_eq_some_getLast none] at last
    simpa using last
  exact (CText.of bytes).ends (same.symm ▸ ends ▸ List.getLast_mem none)

theorem clipped_text {chars : Chars capacity} (last : chars.bytes.getLastD 0 = 0) :
    chars.text.clipped capacity = chars.text :=
  CText.clipped_eq_self.mpr (text_length last)

end Chars

end Device
