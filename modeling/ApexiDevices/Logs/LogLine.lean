import ApexiDevices.Logs.SystemLog
import Mathlib.Data.List.TakeWhile

set_option autoImplicit false

/-!
# The text of a log line

A log line is one minified JSON object. Reading its `boot` and `seq` back gives
the numbers that were written, for all texts that need no escape.
-/

namespace ApexiDevices

open Device SystemEvents

namespace LogLine

def comma (name : String) : Bytes := ascii ",\"" ++ ascii name ++ ascii "\":"

def rest (record : Record) : Bytes :=
  comma "logger_id" ++ ascii "\"" ++ record.loggerId ++ ascii "\"" ++ comma "uptime_ms" ++
    decimal record.uptimeMs.toNat ++ comma "severity" ++ ascii "\"" ++ record.severity ++ ascii "\"" ++
    comma "event" ++ ascii "\"" ++ record.event ++ ascii "\"" ++ comma "value" ++ decimal record.value.toNat ++
    (match record.http with
      | none => []
      | some (status, method, duration) =>
        comma "http_status" ++ decimal status.toNat ++ comma "method" ++ decimal method.toNat ++
          comma "duration_ms" ++ decimal duration.toNat) ++
    ascii "\x7d"

def write (record : Record) : Bytes :=
  ascii "\x7b\"received_at\":\"" ++ (record.receivedAt ++ 34 :: (ascii ",\"device\":\"" ++ (record.device ++
    34 :: (comma "boot" ++ (decimal record.boot.toNat ++ (comma "seq" ++ (decimal record.seq.toNat ++ rest record)))))))

def expect (text input : Bytes) : Option Bytes :=
  if text <+: input then some (input.drop text.length) else none

def closing (input : Bytes) : Option Bytes :=
  match input.dropWhile (· ≠ 34) with
  | [] => none
  | _ :: after => some after

def number (input : Bytes) : UInt32 :=
  UInt32.ofNat (Nat.ofDigitChars 10 ((input.takeWhile digit).map fun byte => Char.ofNat byte.toNat) 0)

def read (input : Bytes) : Option (UInt32 × UInt32) := do
  let received ← expect (ascii "\x7b\"received_at\":\"") input
  let received ← closing received
  let device ← expect (ascii ",\"device\":\"") received
  let device ← closing device
  let boot ← expect (comma "boot") device
  let seq ← expect (comma "seq") (boot.dropWhile digit)
  return (number boot, number seq)

/-- A text without quotes and backslashes. -/
def Simple (text : Bytes) : Prop := ∀ byte ∈ text, 32 ≤ byte ∧ byte ≠ 34 ∧ byte ≠ 92

instance (text : Bytes) : Decidable (Simple text) :=
  inferInstanceAs (Decidable (∀ byte ∈ text, 32 ≤ byte ∧ byte ≠ 34 ∧ byte ≠ 92))

theorem expect_append (text input : Bytes) : expect text (text ++ input) = some input := by
  simp [expect]

theorem closing_append {text : Bytes} (simple : Simple text) (input : Bytes) :
    closing (text ++ 34 :: input) = some input := by
  have inside : ∀ byte ∈ text, decide (byte ≠ 34) = true := fun byte member => decide_eq_true (simple byte member).2.1
  unfold closing
  rw [List.dropWhile_append_of_pos inside, List.dropWhile_cons_of_neg (by simp)]

theorem decimal_digits (value : Nat) : ∀ byte ∈ decimal value, digit byte = true := by
  intro byte member
  have range := decimal_digit member
  simp only [digit, Bool.and_eq_true, decide_eq_true_eq, UInt8.le_iff_toNat_le]
  exact range

theorem decimal_chars (value : Nat) : (decimal value).map (fun byte => Char.ofNat byte.toNat) = Nat.toDigits 10 value := by
  unfold decimal
  rw [List.map_map]
  conv => rhs; rw [← List.map_id (Nat.toDigits 10 value)]
  apply List.map_congr_left
  intro char member
  have isDigit := Nat.isDigit_of_mem_toDigits (by decide) (by decide) member
  have small : char.toNat < 2 ^ 8 := by
    simp only [Char.isDigit, Bool.and_eq_true, decide_eq_true_eq, UInt32.le_iff_toNat_le] at isDigit
    have high : char.toNat ≤ 57 := isDigit.2
    omega
  rw [Function.comp_apply, UInt8.toNat_ofNat', Nat.mod_eq_of_lt small, Char.ofNat_toNat, id]

theorem number_append (value : UInt32) {input : Bytes} (ends : ∀ byte, input.head? = some byte → digit byte = false) :
    number (decimal value.toNat ++ input) = value ∧ (decimal value.toNat ++ input).dropWhile digit = input := by
  have taken : input.takeWhile digit = [] ∧ input.dropWhile digit = input := by
    cases input with
    | nil => exact ⟨rfl, rfl⟩
    | cons byte after => simp [ends byte rfl]
  unfold number
  rw [List.takeWhile_append_of_pos (decimal_digits _), List.dropWhile_append_of_pos (decimal_digits _), taken.1,
    List.append_nil, decimal_chars, Nat.ofDigitChars_ten_toDigits]
  exact ⟨UInt32.ofNat_toNat, taken.2⟩

theorem comma_head (name : String) (input : Bytes) : (comma name ++ input).head? = some 44 := by
  have first : (ascii ",\"").head? = some 44 := by decide
  rw [comma, List.append_assoc, List.append_assoc, List.head?_append, first]
  rfl

theorem comma_not_digit : digit 44 = false := by decide

theorem read_write (record : Record) (receivedAt : Simple record.receivedAt) (device : Simple record.device) :
    read (write record) = some (record.boot, record.seq) := by
  have seqText (byte : UInt8) (first : (comma "seq" ++ (decimal record.seq.toNat ++ rest record)).head? = some byte) :
      digit byte = false := by
    rw [comma_head] at first
    exact Option.some.inj first ▸ comma_not_digit
  have restText (byte : UInt8) (first : (rest record).head? = some byte) : digit byte = false := by
    unfold rest at first
    simp only [List.append_assoc, comma_head] at first
    exact Option.some.inj first ▸ comma_not_digit
  have boot := number_append record.boot seqText
  have seq := number_append record.seq restText
  unfold read write
  simp only [expect_append, closing_append receivedAt, closing_append device, Option.bind_eq_bind, Option.bind_some,
    boot, seq, Option.pure_def]

/-- A record whose texts need no escape and whose line fits. -/
def Fits (record : Record) : Prop :=
  Simple record.receivedAt ∧ Simple record.device ∧ Simple record.loggerId ∧ Simple record.severity ∧
    Simple record.event ∧ (∀ byte ∈ write record, 32 ≤ byte) ∧ (write record).length ≤ 1022

instance (record : Record) : Decidable (Fits record) :=
  inferInstanceAs (Decidable (_ ∧ _ ∧ _ ∧ _ ∧ _ ∧ (∀ byte ∈ _, _) ∧ _))

theorem read_fits {record : Record} (fits : Fits record) : read (write record) = some (record.boot, record.seq) :=
  read_write record fits.1 fits.2.1

/-- Other records would need escapes: their lines are left empty, which no reader accepts. -/
def minified : ArduinoJson where
  serializeJson record := if Fits record then write record else []
  deserializeJson := read
  printable record := by
    split
    · rename_i fits
      exact fits.2.2.2.2.2.1
    · exact fun _ member => absurd member List.not_mem_nil
  short record := by
    split
    · rename_i fits
      exact fits.2.2.2.2.2.2
    · exact Nat.zero_le _
  reads record boot seq found := by
    split at found
    · rename_i fits
      rw [read_fits fits] at found
      cases found
      exact ⟨rfl, rfl⟩
    · have nothing : read [] = none := by decide
      rw [nothing] at found
      cases found

end LogLine

end ApexiDevices
