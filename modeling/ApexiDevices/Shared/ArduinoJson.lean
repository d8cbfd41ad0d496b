import ApexiDevices.Shared.Json
import Mathlib.Data.List.TakeWhile

set_option autoImplicit false

/-!
# Strings of the target and how ArduinoJson reads a value

A `String` ends before its first NUL. Reading a value as a string never fails:
what is not a string is written out, so a missing member reads as the text `null`.
-/

namespace Device

structure ArduinoString where
  chars : List Char
  terminated : '\x00' ∉ chars
  deriving DecidableEq

namespace ArduinoString

@[ext] theorem ext {first second : ArduinoString} (same : first.chars = second.chars) : first = second := by
  cases first
  cases second
  cases same
  rfl

def cut (chars : List Char) : ArduinoString where
  chars := chars.takeWhile fun char => char != '\x00'
  terminated member := by simpa using List.mem_takeWhile_imp member

theorem cut_chars {chars : List Char} (terminated : '\x00' ∉ chars) : (cut chars).chars = chars := by
  rw [cut, List.takeWhile_eq_self_iff]
  intro char member
  simpa using fun nul : char = '\x00' => terminated (nul ▸ member)

def of (text : String) : ArduinoString := cut text.toList

def empty : ArduinoString := ⟨[], List.not_mem_nil⟩

instance : Inhabited ArduinoString := ⟨empty⟩

def text (string : ArduinoString) : String := String.ofList string.chars

@[simp] theorem of_text (string : ArduinoString) : of string.text = string := by
  apply ext
  rw [of, text, String.toList_ofList, cut_chars string.terminated]

def isEmpty (string : ArduinoString) : Bool := string.chars.isEmpty

@[simp] theorem isEmpty_iff {string : ArduinoString} : string.isEmpty = true ↔ string = empty := by
  rw [isEmpty, List.isEmpty_iff]
  exact ⟨fun none => ext none, fun same => same ▸ rfl⟩

/-- The size in bytes, as `length()` and `size()` count it. -/
def length (string : ArduinoString) : Nat := string.chars.foldr (fun char size => char.utf8Size + size) 0

def append (first second : ArduinoString) : ArduinoString where
  chars := first.chars ++ second.chars
  terminated member := (List.mem_append.mp member).elim first.terminated second.terminated

instance : Append ArduinoString := ⟨append⟩

@[simp] theorem chars_append (first second : ArduinoString) :
    (first ++ second).chars = first.chars ++ second.chars := rfl

theorem length_of_ascii {string : ArduinoString} (ascii : ∀ char ∈ string.chars, char.toNat ≤ 0x7f) :
    string.length = string.chars.length := by
  rw [length]
  generalize string.chars = chars at ascii
  induction chars with
  | nil => rfl
  | cons char rest ih =>
    have one : char.utf8Size = 1 := Char.utf8Size_eq_one_iff.mpr (ascii char List.mem_cons_self)
    rw [List.foldr_cons, one, ih fun char member => ascii char (List.mem_cons_of_mem _ member),
      List.length_cons, Nat.add_comm]

end ArduinoString

namespace Members

def remove (members : Members) (key : String) : Members := members.filter fun member => member.1 != key

theorem find?_remove (members : Members) (key other : String) :
    (members.remove key).find? other = if key = other then none else members.find? other := by
  induction members with
  | nil => simp [remove, find?]
  | cons member rest ih =>
    rw [remove] at ih ⊢
    by_cases named : member.1 = key
    · rw [List.filter_cons_of_neg (by simp [named]), ih, find?]
      by_cases same : key = other <;> simp [same, named]
    · rw [List.filter_cons_of_pos (by simp [named]), find?, ih, find?]
      by_cases same : key = other
      · simp [← same, named]
      · simp [same]

@[simp] theorem get_remove (members : Members) (key other : String) :
    (members.remove key).get other = if key = other then .null else members.get other := by
  rw [get, find?_remove]
  split <;> rfl

@[simp] theorem find?_isSome_remove (members : Members) (key : String) :
    ((members.remove key).find? key).isSome = false := by
  rw [find?_remove, if_pos rfl]
  rfl

end Members

namespace Json

def escape : Char → List Char
  | '"' => ['\\', '"']
  | '\\' => ['\\', '\\']
  | '\x08' => ['\\', 'b']
  | '\x0c' => ['\\', 'f']
  | '\n' => ['\\', 'n']
  | '\r' => ['\\', 'r']
  | '\t' => ['\\', 't']
  | '\x00' => ['\\', 'u', '0', '0', '0', '0']
  | char => [char]

def quote (text : String) : String := "\"" ++ String.ofList (text.toList.flatMap escape) ++ "\""

mutual

def serialize : Json → String
  | null => "null"
  | bool value => if value then "true" else "false"
  | int value => toString value
  | real text => text
  | string value => quote value
  | array items => "[" ++ serializeItems items ++ "]"
  | object members => "\x7b" ++ serializeMembers members ++ "\x7d"

def serializeItems : List Json → String
  | [] => ""
  | [item] => item.serialize
  | item :: items => item.serialize ++ "," ++ serializeItems items

def serializeMembers : Members → String
  | [] => ""
  | [(key, value)] => quote key ++ ":" ++ value.serialize
  | (key, value) :: members => quote key ++ ":" ++ value.serialize ++ "," ++ serializeMembers members

end

/-- `as<String>()` -/
def asString : Json → ArduinoString
  | string value => .of value
  | value => .of value.serialize

/-- `is<const char *>()` -/
def isString : Json → Bool
  | string _ => true
  | _ => false

/-- `value == literal` -/
def reads : Json → String → Bool
  | string value, literal => value == literal
  | _, _ => false

/-- The value when `is<uint32_t>()`. -/
def uint? : Json → Option UInt32
  | int value => if 0 ≤ value ∧ value < 0x100000000 then some (UInt32.ofNat value.toNat) else none
  | _ => none

/-- The value when `is<int>()`. -/
def int? : Json → Option Int
  | int value => if -0x80000000 ≤ value ∧ value < 0x80000000 then some value else none
  | _ => none

def bool? : Json → Option Bool
  | bool value => some value
  | _ => none

/-- `doc[key]`: null below anything that is not an object. -/
def member : Json → String → Json
  | object members, key => Members.get members key
  | _, _ => null

def containsKey : Json → String → Bool
  | object members, key => (Members.find? members key).isSome
  | _, _ => false

def elements : Json → List Json
  | array items => items
  | _ => []

def ofText (text : ArduinoString) : Json := .string text.text

def ofUInt32 (value : UInt32) : Json := .int value.toNat

@[simp] theorem asString_ofText (text : ArduinoString) : (ofText text).asString = text :=
  ArduinoString.of_text text

@[simp] theorem asString_null : null.asString = ArduinoString.of "null" := rfl

@[simp] theorem bool?_bool (value : Bool) : (bool value).bool? = some value := rfl

@[simp] theorem uint?_ofUInt32 (value : UInt32) : (ofUInt32 value).uint? = some value := by
  have bound := value.toNat_lt
  rw [ofUInt32, uint?, if_pos (by omega)]
  simp

end Json

end Device
