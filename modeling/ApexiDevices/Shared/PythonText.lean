import ApexiDevices.Shared.Utf8
import Mathlib.Data.List.DropRight

set_option autoImplicit false

/-!
# Texts as Python splits and strips them

A text is its code points. Some characters are white space without ending a line.
-/

namespace Device.PythonText

abbrev Text := List Char

/-- `str.isspace` of one character, and `\s` of a pattern. -/
def isspace (char : Char) : Bool :=
  let code := char.toNat
  (9 ≤ code && code ≤ 13) || (28 ≤ code && code ≤ 32) || code == 0x85 || code == 0xa0 || code == 0x1680 ||
    (0x2000 ≤ code && code ≤ 0x200a) || code == 0x2028 || code == 0x2029 || code == 0x202f || code == 0x205f ||
    code == 0x3000

def endsLine (char : Char) : Bool :=
  let code := char.toNat
  (10 ≤ code && code ≤ 13) || (28 ≤ code && code ≤ 30) || code == 0x85 || code == 0x2028 || code == 0x2029

/-- A character in front of a line that is split off. -/
def extend (char : Char) : List Text → List Text
  | [] => [[char]]
  | line :: lines => (char :: line) :: lines

/-- `str.splitlines`; `afterReturn` in the middle of `\r\n`, which ends one line. -/
def splitFrom : (afterReturn : Bool) → Text → List Text
  | _, [] => []
  | afterReturn, char :: rest =>
    if afterReturn && char == '\n' then splitFrom false rest
    else if endsLine char then [] :: splitFrom (char == '\r') rest
    else extend char (splitFrom false rest)

def splitlines (text : Text) : List Text := splitFrom false text

/-- What `Path.read_text` makes of the line ends `\r\n` and `\r`. -/
def universalFrom : (afterReturn : Bool) → Text → Text
  | _, [] => []
  | afterReturn, char :: rest =>
    if char == '\r' then '\n' :: universalFrom true rest
    else if afterReturn && char == '\n' then universalFrom false rest
    else char :: universalFrom false rest

def universal (text : Text) : Text := universalFrom false text

theorem splitFrom_universalFrom (afterReturn : Bool) (text : Text) :
    splitFrom false (universalFrom afterReturn text) = splitFrom afterReturn text := by
  induction text generalizing afterReturn with
  | nil => rfl
  | cons char rest ih =>
    by_cases carriage : char = '\r'
    · subst carriage
      have ends : endsLine '\r' = true := by decide
      have feed : endsLine '\n' = true := by decide
      simp [universalFrom, splitFrom, ends, feed, ih]
    · have other : (char == '\r') = false := by simpa using carriage
      cases afterReturn with
      | false => simp [universalFrom, splitFrom, other, ih]
      | true => by_cases feed : char = '\n' <;> simp [universalFrom, splitFrom, other, feed, ih]

theorem splitlines_universal (text : Text) : splitlines (universal text) = splitlines text :=
  splitFrom_universalFrom false text

theorem splitlines_cons {line rest : Text} (whole : ∀ char ∈ line, endsLine char = false) :
    splitlines (line ++ '\n' :: rest) = line :: splitlines rest := by
  induction line with
  | nil => rfl
  | cons char line ih =>
    obtain ⟨inside, others⟩ := List.forall_mem_cons.mp whole
    rw [List.cons_append, splitlines, splitFrom, Bool.false_and, if_neg Bool.false_ne_true, inside, if_neg Bool.false_ne_true]
    exact congrArg (extend char) (ih others)

/-- `str.strip` -/
def strip (text : Text) : Text := (text.dropWhile isspace).rdropWhile isspace

theorem strip_prefix {first : Char} {rest : Text} (shown : isspace first = false) : strip (first :: rest) <+: first :: rest := by
  rw [strip, List.dropWhile_cons_of_neg (by simp [shown])]
  exact List.rdropWhile_prefix _ _

end Device.PythonText
