import Mathlib.Tactic.Common

set_option autoImplicit false

/-!
# JSON values in memory

A document after parsing: the members of an object are kept in insertion order,
each key once. Reals keep the text they were parsed from.
-/

namespace Device

inductive Json where
  | null
  | bool (value : Bool)
  | int (value : Int)
  | real (text : String)
  | string (value : String)
  | array (items : List Json)
  | object (members : List (String × Json))

abbrev Members := List (String × Json)

namespace Members

def find? : Members → String → Option Json
  | [], _ => none
  | (name, value) :: rest, key => if name = key then some value else find? rest key

/-- A missing member reads as null. -/
def get (members : Members) (key : String) : Json := (members.find? key).getD .null

def set (members : Members) (key : String) (value : Json) : Members :=
  match members with
  | [] => [(key, value)]
  | (name, old) :: rest => if name = key then (key, value) :: rest else (name, old) :: set rest key value

theorem find?_set (members : Members) (key other : String) (value : Json) :
    (members.set key value).find? other = if key = other then some value else members.find? other := by
  induction members with
  | nil => rfl
  | cons member rest ih =>
    by_cases named : member.1 = key
    · by_cases same : key = other <;> simp [set, find?, named, same]
    · rw [set, if_neg named, find?, ih, find?]
      by_cases same : key = other
      · simp [← same, named]
      · simp [same]

@[simp] theorem get_set (members : Members) (key other : String) (value : Json) :
    (members.set key value).get other = if key = other then value else members.get other := by
  rw [get, find?_set]
  split <;> rfl

@[simp] theorem set_set (members : Members) (key : String) (first second : Json) :
    (members.set key first).set key second = members.set key second := by
  induction members with
  | nil => simp [set]
  | cons member rest ih =>
    by_cases named : member.1 = key
    · simp [set, named]
    · simp [set, named, ih]

end Members

mutual

/-- Equality as a dictionary language has it: members in any order, booleans equal to 0 and 1. -/
def Json.equal : Json → Json → Bool
  | .null, .null => true
  | .bool a, .bool b => a == b
  | .bool a, .int n => n == cond a 1 0
  | .int n, .bool a => n == cond a 1 0
  | .int n, .int m => n == m
  | .real text, .real text' => text == text'
  | .string s, .string t => s == t
  | .array items, .array others => Json.equalItems items others
  | .object members, .object others =>
    members.length == others.length && Json.equalMembers members others
  | _, _ => false

def Json.equalItems : List Json → List Json → Bool
  | [], [] => true
  | item :: items, other :: others => item.equal other && Json.equalItems items others
  | _, _ => false

def Json.equalMembers : Members → Members → Bool
  | [], _ => true
  | (key, value) :: rest, others =>
    (match others.find? key with
      | some other => value.equal other
      | none => false) && Json.equalMembers rest others

end

namespace Json

@[simp] theorem equal_string {value : Json} {text : String} :
    value.equal (.string text) = true ↔ value = .string text := by
  cases value <;> simp [equal]

@[simp] theorem string_equal {value : Json} {text : String} :
    (string text).equal value = true ↔ value = .string text := by
  cases value with
  | string value => simpa [equal] using eq_comm
  | null | bool _ | int _ | real _ | array _ | object _ => simp [equal]

theorem equal_object {members others : Members} :
    (object members).equal (.object others) = true ↔
      members.length = others.length ∧ equalMembers members others = true := by
  rw [equal, Bool.and_eq_true, beq_iff_eq]

@[simp] theorem equalMembers_nil {others : Members} : equalMembers [] others = true := by
  rw [equalMembers]

@[simp] theorem equalMembers_cons {key : String} {value : Json} {rest others : Members} :
    equalMembers ((key, value) :: rest) others = true ↔
      (∃ other, others.find? key = some other ∧ value.equal other = true) ∧
        equalMembers rest others = true := by
  rw [equalMembers, Bool.and_eq_true]
  cases others.find? key <;> simp

end Json

end Device
