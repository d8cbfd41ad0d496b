import ApexiDevices.Shared.Codec

set_option autoImplicit false

/-!
# JSON values in the memory of the target

A text is any run of bytes; read as a C string it ends before its first NUL. A
key is a C string.
-/

namespace Device

inductive Document where
  | null
  | bool (value : Bool)
  | int (value : Int)
  -- a double, as its bits
  | real (bits : UInt64)
  | string (value : Bytes)
  | array (items : List Document)
  | object (members : List (CText × Document))

namespace Document

abbrev Object := List (CText × Document)

/-- A missing member reads as null. -/
def Object.get : Object → String → Document
  | [], _ => null
  | (name, value) :: rest, key => if name = .literal key then value else Object.get rest key

/-- `document[key]`: null below anything that is not an object. -/
def member : Document → String → Document
  | object members, key => Object.get members key
  | _, _ => null

def isNull : Document → Bool
  | null => true
  | _ => false

/-- `as<JsonObject>()`, which is null for anything else. -/
def object? : Document → Option Object
  | object members => some members
  | _ => none

/-- The bytes of a text, also those behind a NUL. -/
def bytes : Document → Bytes
  | string value => value
  | _ => []

/-- `as<const char *>()`, the null pointer for anything that is not a text. -/
def text? : Document → Option CText
  | string value => some (.of value)
  | _ => none

/-- `value | ""`, and the string made of `as<const char *>()`. -/
def text (document : Document) : CText := document.text?.getD .empty

/-- The value when `is<bool>()`. -/
def bool? : Document → Option Bool
  | bool value => some value
  | _ => none

/-- The value when `is<int>()`. -/
def int? : Document → Option Int
  | int value => if -0x80000000 ≤ value ∧ value < 0x80000000 then some value else none
  | _ => none

/-- The value when `is<uint32_t>()`. -/
def uint? : Document → Option UInt32
  | int value => if 0 ≤ value ∧ value < 0x100000000 then some (UInt32.ofNat value.toNat) else none
  | _ => none

end Document

/-- The parser, and what a text or a real is as an integer. -/
structure JsonLibrary where
  deserialize : (capacity : Nat) → Bytes → Option Document
  textInt : Bytes → Int
  textUInt : Bytes → UInt32
  realInt : UInt64 → Int
  realUInt : UInt64 → UInt32

namespace JsonLibrary

variable (library : JsonLibrary)

/-- `as<int>()` -/
def asInt : Document → Int
  | .bool value => if value then 1 else 0
  | .int value => (Document.int value).int?.getD 0
  | .real bits => library.realInt bits
  | .string value => library.textInt value
  | .null | .array _ | .object _ => 0

/-- `as<uint32_t>()` -/
def asUInt : Document → UInt32
  | .bool value => if value then 1 else 0
  | .int value => (Document.int value).uint?.getD 0
  | .real bits => library.realUInt bits
  | .string value => library.textUInt value
  | .null | .array _ | .object _ => 0

end JsonLibrary

end Device
