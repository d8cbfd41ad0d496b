import ApexiDevices.Dash.DashTelemetry
import ApexiDevices.Shared.Document
import Mathlib.Data.Fin.VecNotation

set_option autoImplicit false

/-!
# Gauge rules and their JSON form

A rule belongs to a sensor by its id and units. Slots without an id are empty;
the JSON form leaves them out, and reading it fills the slots from the first on.
-/

namespace ApexiDevices.DashGauge

open Device DashTelemetry

/-! ## Floats by their bits -/

/-- The order of the bits that are not NaN; both zeros are one. -/
def floatKey (bits : UInt32) : Int :=
  if bits < 0x80000000 then bits.toNat else -((bits.toNat - 0x80000000 : Nat) : Int)

def isnan (bits : UInt32) : Bool := !isfinite bits && bits &&& 0x7fffff ≠ 0

def floatLe (first second : UInt32) : Bool := !isnan first && !isnan second && decide (floatKey first ≤ floatKey second)

def floatLt (first second : UInt32) : Bool := !isnan first && !isnan second && decide (floatKey first < floatKey second)

theorem isnan_of_isfinite {bits : UInt32} (finite : isfinite bits = true) : isnan bits = false := by
  rw [isnan, finite]
  rfl

theorem floatLt_of_not_le {first second : UInt32} (finite : isfinite first = true) (other : isfinite second = true)
    (greater : floatLe second first = false) : floatLt first second = true := by
  rw [floatLe, isnan_of_isfinite finite, isnan_of_isfinite other] at greater
  rw [floatLt, isnan_of_isfinite finite, isnan_of_isfinite other]
  simpa using greater

/-! ## Rules -/

def kMaxRules : Nat := 8

structure Rule where
  id : Chars 16 := .copy 16 .empty
  units : Chars 16 := .copy 16 .empty
  -- 0, 33, 66 and 100, in engineering units
  points : Fin 4 → UInt32 := ![0x00000000, 0x42040000, 0x42840000, 0x42c80000]
  low : UInt32 := 0
  high : UInt32 := 0x42c80000
  lowEnabled : Bool := false
  highEnabled : Bool := false

structure Rules where
  entries : List Rule := List.replicate kMaxRules {}
  size : entries.length = kMaxRules := by decide

def strnlen (chars : Chars 16) : Nat := chars.text.bytes.length

def idChar (char : UInt8) : Bool :=
  (0x61 ≤ char && char ≤ 0x7a) || (0x41 ≤ char && char ≤ 0x5a) || (0x30 ≤ char && char ≤ 0x39) || char == 0x5f ||
    char == 0x2d

def identifier (id : Chars 16) : Bool :=
  strnlen id != 0 && strnlen id != 16 && id.text.bytes.all idChar && id.text.bytes != ascii "-"

/-- Between minus one million and one million. -/
def number (value : UInt32) : Bool := isfinite value && floatLe 0xc9742400 value && floatLe value 0x49742400

namespace Rule

variable (rule : Rule)

def valid : Bool :=
  identifier rule.id && strnlen rule.units != 16 && rule.units.text.bytes.all (fun char => !(char < 32 || 126 < char)) &&
    (List.finRange 4).all (fun index => number (rule.points index)) &&
    (List.finRange 3).all (fun index => !floatLe (rule.points index.succ) (rule.points index.castSucc)) &&
    number rule.low && number rule.high && (!(rule.lowEnabled && rule.highEnabled) || floatLt rule.low rule.high)

/-- `id[0]` -/
def named : Bool := rule.id.bytes.headD 0 != 0

end Rule

def validFrom (earlier : List Rule) : List Rule → Bool
  | [] => true
  | rule :: rest =>
    (!rule.named || rule.valid && earlier.all fun other => rule.id.text != other.id.text) &&
      validFrom (earlier ++ [rule]) rest

def Rules.valid (rules : Rules) : Bool := validFrom [] rules.entries

def find (rules : Rules) (id units : CText) : Option Rule :=
  rules.entries.find? fun rule => rule.named && rule.id.text == id && rule.units.text == units

/-! ## JSON -/

/-- How ArduinoJson carries a float: what `add` makes of it, and `as<float>()` where `is<float>()`. -/
structure Numbers where
  ofFloat : UInt32 → Document
  toFloat? : Document → Option UInt32
  lossless : ∀ bits, isfinite bits = true → toFloat? (ofFloat bits) = some bits

section Json

variable (numbers : Numbers)

def ruleJson (rule : Rule) : Document :=
  .object [(.literal "id", .string rule.id.text.bytes), (.literal "units", .string rule.units.text.bytes),
    (.literal "points", .array ((List.finRange 4).map fun index => numbers.ofFloat (rule.points index))),
    (.literal "low", numbers.ofFloat rule.low), (.literal "high", numbers.ofFloat rule.high),
    (.literal "lowEnabled", .bool rule.lowEnabled), (.literal "highEnabled", .bool rule.highEnabled)]

def toJson (rules : Rules) : List Document := (rules.entries.filter Rule.named).map (ruleJson numbers)

def array? : Document → Option (List Document)
  | .array items => some items
  | _ => none

def readRule (entry : Document) : Option Rule := do
  let _ ← entry.object?
  let id ← (entry.member "id").text?
  let units ← (entry.member "units").text?
  let points ← array? (entry.member "points")
  guard (id.bytes.length ≤ 15 ∧ units.bytes.length ≤ 15 ∧ points.length = 4)
  let lowEnabled ← (entry.member "lowEnabled").bool?
  let highEnabled ← (entry.member "highEnabled").bool?
  let low ← numbers.toFloat? (entry.member "low")
  let high ← numbers.toFloat? (entry.member "high")
  let values ← points.mapM numbers.toFloat?
  let rule : Rule :=
    { id := .copy 16 id, units := .copy 16 units, points := fun index => values.getD index 0, low, high, lowEnabled,
      highEnabled }
  guard rule.valid
  return rule

def fill (entries : List Rule) : Rules where
  entries := (entries ++ List.replicate kMaxRules ({} : Rule)).take kMaxRules
  size := by simp

def fromJson (input : Document) (out : Rules) : Bool × Rules :=
  match array? input with
  | none => (false, out)
  | some items =>
    if kMaxRules < items.length then (false, out)
    else
      match items.mapM (readRule numbers) with
      | none => (false, out)
      | some entries => if (fill entries).valid then (true, fill entries) else (false, out)

end Json

/-! ## Slots and texts -/

theorem named_iff (rule : Rule) : rule.named = true ↔ rule.id.text.bytes ≠ [] := by
  rw [Rule.named, Chars.text, CText.of]
  cases rule.id.bytes with
  | nil => simp
  | cons char rest => by_cases zero : char = 0 <;> simp [zero]

theorem named_blank : ({} : Rule).named = false := by decide

structure Shown where
  id : CText
  units : CText
  points : Fin 4 → UInt32
  low : UInt32
  high : UInt32
  lowEnabled : Bool
  highEnabled : Bool

def Rule.shown (rule : Rule) : Shown :=
  ⟨rule.id.text, rule.units.text, rule.points, rule.low, rule.high, rule.lowEnabled, rule.highEnabled⟩

def Rule.normal (rule : Rule) : Rule :=
  { rule with id := .copy 16 rule.id.text, units := .copy 16 rule.units.text }

theorem copy_text {text : CText} (short : text.bytes.length ≤ 15) : (Chars.copy 16 text).text = text := by
  rw [Chars.text_copy (by decide), CText.clipped_eq_self]
  exact short

theorem strnlen_le (chars : Chars 16) : strnlen chars ≤ 16 := by
  have part : chars.text.bytes <+: chars.bytes := List.takeWhile_prefix _
  exact part.length_le.trans chars.size.le

section Valid

variable {rule : Rule} (valid : rule.valid = true)

include valid

theorem id_short : rule.id.text.bytes.length ≤ 15 := by
  simp only [Rule.valid, identifier, Bool.and_eq_true, bne_iff_ne] at valid
  have most := strnlen_le rule.id
  have full := valid.1.1.1.1.1.1.1.1.1.2
  rw [strnlen] at most full
  omega

theorem units_short : rule.units.text.bytes.length ≤ 15 := by
  simp only [Rule.valid, identifier, Bool.and_eq_true, bne_iff_ne] at valid
  have most := strnlen_le rule.units
  have full := valid.1.1.1.1.1.1.2
  rw [strnlen] at most full
  omega

theorem named_of_valid : rule.named = true := by
  simp only [Rule.valid, identifier, Bool.and_eq_true, bne_iff_ne] at valid
  rw [named_iff]
  intro none
  exact valid.1.1.1.1.1.1.1.1.1.1 (by rw [strnlen, none]; rfl)

theorem normal_shown : rule.normal.shown = rule.shown := by
  rw [Rule.normal, Rule.shown, Rule.shown, copy_text (id_short valid), copy_text (units_short valid)]

theorem normal_valid : rule.normal.valid = true := by
  have same : rule.normal.valid = rule.valid := by
    simp only [Rule.valid, identifier, strnlen, Rule.normal, copy_text (id_short valid), copy_text (units_short valid)]
  rw [same, valid]

theorem points_finite (index : Fin 4) : isfinite (rule.points index) = true := by
  simp only [Rule.valid, number, Bool.and_eq_true, List.all_eq_true, List.mem_finRange, true_imp_iff] at valid
  exact (valid.1.1.1.1.2 index).1.1

theorem limits_finite : isfinite rule.low = true ∧ isfinite rule.high = true := by
  simp only [Rule.valid, number, Bool.and_eq_true] at valid
  exact ⟨valid.1.1.2.1.1, valid.1.2.1.1⟩

theorem points_increase (index : Fin 3) : floatLt (rule.points index.castSucc) (rule.points index.succ) = true := by
  refine floatLt_of_not_le (points_finite valid _) (points_finite valid _) ?_
  simp only [Rule.valid, Bool.and_eq_true, List.all_eq_true, List.mem_finRange, true_imp_iff, Bool.not_eq_true'] at valid
  exact valid.1.1.1.2 index

theorem alarms_apart (low : rule.lowEnabled = true) (high : rule.highEnabled = true) :
    floatLt rule.low rule.high = true := by
  simp only [Rule.valid, Bool.and_eq_true, low, high] at valid
  simpa using valid.2

end Valid

def ids (rules : List Rule) : List CText := (rules.filter Rule.named).map fun rule => rule.id.text

theorem id_ne_blank {rule other : Rule} (named : rule.named = true) (blank : other.named = false) :
    rule.id.text ≠ other.id.text := by
  intro same
  have used := (named_iff rule).mp named
  rw [same] at used
  have shown := (named_iff other).mpr used
  rw [blank] at shown
  exact absurd shown (by decide)

theorem mem_ids {rules : List Rule} {id : CText} :
    id ∈ ids rules ↔ ∃ rule ∈ rules, rule.named = true ∧ rule.id.text = id := by
  simp [ids, and_assoc]

theorem validFrom_iff (earlier rules : List Rule) :
    validFrom earlier rules = true ↔
      (∀ rule ∈ rules, rule.named = true → rule.valid = true ∧ ∀ other ∈ earlier, rule.id.text ≠ other.id.text) ∧
        (ids rules).Nodup := by
  induction rules generalizing earlier with
  | nil => simp [validFrom, ids]
  | cons rule rest ih =>
    rw [validFrom, Bool.and_eq_true, ih]
    -- an unnamed rule is skipped, but takes its place among the earlier ones
    cases named : rule.named with
    | false =>
      have apart : ∀ other : Rule, other.named = true → other.id.text ≠ rule.id.text :=
        fun other used => id_ne_blank used named
      have same : ids (rule :: rest) = ids rest := by rw [ids, ids, List.filter_cons_of_neg (by simp [named])]
      rw [same]
      constructor
      · rintro ⟨-, each, nodup⟩
        refine ⟨?_, nodup⟩
        intro other member used
        obtain rfl | member := List.mem_cons.mp member
        · exact absurd used (by simp [named])
        · exact ⟨(each other member used).1, fun one found => (each other member used).2 one (by simp [found])⟩
      · rintro ⟨each, nodup⟩
        refine ⟨by simp, ?_, nodup⟩
        intro other member used
        have fact := each other (by simp [member]) used
        refine ⟨fact.1, ?_⟩
        intro one found
        obtain found | found := List.mem_append.mp found
        · exact fact.2 one found
        · rw [List.mem_singleton.mp found]
          exact apart other used
    | true =>
      have same : ids (rule :: rest) = rule.id.text :: ids rest := by
        rw [ids, ids, List.filter_cons_of_pos named, List.map_cons]
      rw [same, List.nodup_cons]
      constructor
      · rintro ⟨first, each, nodup⟩
        simp only [Bool.not_true, Bool.false_or, Bool.and_eq_true, List.all_eq_true, bne_iff_ne] at first
        refine ⟨?_, ?_, nodup⟩
        · intro other member used
          obtain rfl | member := List.mem_cons.mp member
          · exact first
          · exact ⟨(each other member used).1, fun one found => (each other member used).2 one (by simp [found])⟩
        · intro twice
          obtain ⟨other, member, used, equal⟩ := mem_ids.mp twice
          exact (each other member used).2 rule (by simp) equal
      · rintro ⟨each, fresh, nodup⟩
        have first := each rule (by simp) named
        refine ⟨by simpa using first, ?_, nodup⟩
        intro other member used
        have fact := each other (by simp [member]) used
        refine ⟨fact.1, ?_⟩
        intro one found
        obtain found | found := List.mem_append.mp found
        · exact fact.2 one found
        · rw [List.mem_singleton.mp found]
          intro equal
          exact fresh (mem_ids.mpr ⟨other, member, used, equal⟩)

theorem valid_iff (rules : Rules) :
    rules.valid = true ↔ (∀ rule ∈ rules.entries, rule.named = true → rule.valid = true) ∧ (ids rules.entries).Nodup := by
  rw [Rules.valid, validFrom_iff]
  simp

section Json

variable (numbers : Numbers)

theorem member_first {key : String} {value : Document} {rest : Document.Object} :
    (Document.object ((.literal key, value) :: rest)).member key = value :=
  if_pos rfl

theorem member_next {name key : String} {value : Document} {rest : Document.Object}
    (apart : CText.literal name ≠ .literal key) :
    (Document.object ((.literal name, value) :: rest)).member key = (Document.object rest).member key :=
  if_neg apart

theorem points_read {rule : Rule} (valid : rule.valid = true) (indices : List (Fin 4)) :
    (indices.map fun index => numbers.ofFloat (rule.points index)).mapM numbers.toFloat? =
      some (indices.map rule.points) := by
  induction indices with
  | nil => rfl
  | cons index rest ih =>
    rw [List.map_cons, List.mapM_cons, numbers.lossless _ (points_finite valid index), ih]
    rfl

theorem readRule_ruleJson {rule : Rule} (valid : rule.valid = true) :
    readRule numbers (ruleJson numbers rule) = some rule.normal := by
  have finite := limits_finite valid
  have same : (fun index => ((List.finRange 4).map rule.points).getD index 0 : Fin 4 → UInt32) = rule.points := by
    funext index
    rw [List.getD_eq_getElem?_getD, List.getElem?_map, List.getElem?_eq_getElem (by simp), List.getElem_finRange]
    rfl
  have checked := normal_valid valid
  rw [Rule.normal] at checked
  rw [readRule, ruleJson]
  simp (disch := decide) only [member_first, member_next, Document.object?, Document.text?, Document.bool?, array?]
  simp only [Option.bind_eq_bind, Option.bind_some, CText.of_bytes, id_short valid, units_short valid, List.length_map,
    List.length_finRange, and_self, guard_true, numbers.lossless _ finite.1, numbers.lossless _ finite.2,
    points_read numbers valid, same, checked, Option.pure_def, Rule.normal]

theorem mapM_readRule {rules : List Rule} (valid : ∀ rule ∈ rules, rule.valid = true) :
    (rules.map (ruleJson numbers)).mapM (readRule numbers) = some (rules.map Rule.normal) := by
  induction rules with
  | nil => rfl
  | cons rule rest ih =>
    rw [List.map_cons, List.mapM_cons, readRule_ruleJson numbers (valid rule (by simp)),
      ih fun other member => valid other (by simp [member])]
    rfl

theorem fill_named {entries : List Rule} (fits : entries.length ≤ kMaxRules) :
    (fill entries).entries.filter Rule.named = entries.filter Rule.named := by
  have slots : (fill entries).entries = entries ++ (List.replicate kMaxRules ({} : Rule)).take (kMaxRules - entries.length) := by
    simp only [fill, List.take_append, List.take_of_length_le fits]
  have empty : ((List.replicate kMaxRules ({} : Rule)).take (kMaxRules - entries.length)).filter Rule.named = [] := by
    rw [List.filter_eq_nil_iff]
    intro rule member
    rw [List.eq_of_mem_replicate (List.mem_of_mem_take member), named_blank]
    decide
  rw [slots, List.filter_append, empty, List.append_nil]

theorem find_eq (rules : Rules) (id units : CText) :
    find rules id units =
      (rules.entries.filter Rule.named).find? fun rule => rule.id.text == id && rule.units.text == units := by
  rw [find, List.find?_filter]
  refine congrArg (List.find? · rules.entries) ?_
  funext rule
  rw [Bool.eq_iff_iff]
  simp [and_assoc]

variable {rules : Rules} (valid : rules.valid = true)

include valid

theorem used_valid {rule : Rule} (member : rule ∈ rules.entries.filter Rule.named) : rule.valid = true := by
  obtain ⟨member, named⟩ := List.mem_filter.mp member
  exact ((valid_iff rules).mp valid).1 rule member named

def written (rules : Rules) : Rules := fill ((rules.entries.filter Rule.named).map Rule.normal)

theorem written_named :
    (written rules).entries.filter Rule.named = (rules.entries.filter Rule.named).map Rule.normal := by
  have fits : (rules.entries.filter Rule.named).length ≤ kMaxRules :=
    (List.length_filter_le _ _).trans_eq rules.size
  rw [written, fill_named (by simpa using fits), List.filter_eq_self]
  intro rule member
  obtain ⟨used, own, rfl⟩ := List.mem_map.mp member
  exact named_of_valid (normal_valid (used_valid valid own))

theorem written_valid : (written rules).valid = true := by
  have same : ids (written rules).entries = ids rules.entries := by
    rw [ids, written_named valid, List.map_map, ids]
    refine List.map_congr_left ?_
    intro rule member
    exact copy_text (id_short (used_valid valid member))
  rw [valid_iff, same]
  refine ⟨?_, ((valid_iff rules).mp valid).2⟩
  intro rule member named
  have used := List.mem_filter.mpr ⟨member, named⟩
  rw [written_named valid] at used
  obtain ⟨source, own, rfl⟩ := List.mem_map.mp used
  exact normal_valid (used_valid valid own)

theorem find_written (id units : CText) :
    (find (written rules) id units).map Rule.shown = (find rules id units).map Rule.shown := by
  rw [find_eq, find_eq, written_named valid]
  have each : ∀ rule ∈ rules.entries.filter Rule.named, rule.valid = true := fun _ member => used_valid valid member
  generalize rules.entries.filter Rule.named = used at each
  induction used with
  | nil => rfl
  | cons rule rest ih =>
    have own := each rule (by simp)
    have id_same : rule.normal.id.text = rule.id.text := copy_text (id_short own)
    have units_same : rule.normal.units.text = rule.units.text := copy_text (units_short own)
    rw [List.map_cons, List.find?_cons, List.find?_cons, id_same, units_same]
    split
    · simp only [Option.map_some, normal_shown own]
    · exact ih fun other member => each other (by simp [member])

theorem toJson_written : toJson numbers (written rules) = toJson numbers rules := by
  rw [toJson, toJson, written_named valid, List.map_map]
  refine List.map_congr_left ?_
  intro rule member
  have own := used_valid valid member
  rw [Function.comp_apply, ruleJson, ruleJson, Rule.normal, copy_text (id_short own), copy_text (units_short own)]

theorem fromJson_toJson (out : Rules) :
    fromJson numbers (.array (toJson numbers rules)) out = (true, written rules) := by
  have fits : ¬kMaxRules < (toJson numbers rules).length := by
    rw [toJson, List.length_map]
    exact not_lt.mpr ((List.length_filter_le _ _).trans_eq rules.size)
  have read := mapM_readRule numbers fun rule (member : rule ∈ rules.entries.filter Rule.named) => used_valid valid member
  rw [fromJson, array?]
  dsimp only
  rw [if_neg fits, toJson, read]
  exact if_pos (written_valid valid)

end Json

theorem fromJson_cases (numbers : Numbers) (input : Document) (out : Rules) :
    fromJson numbers input out = (false, out) ∨
      ∃ read : Rules, fromJson numbers input out = (true, read) ∧ read.valid = true := by
  rw [fromJson]
  cases array? input with
  | none => exact .inl rfl
  | some items =>
    dsimp only
    split
    · exact .inl rfl
    · cases items.mapM (readRule numbers) with
      | none => exact .inl rfl
      | some entries =>
        dsimp only
        split
        case isTrue valid => exact .inr ⟨fill entries, rfl, valid⟩
        case isFalse => exact .inl rfl

/-- Valid rules survive their JSON form. What is read from any JSON value is either refused without a trace, or valid:
the ids differ, the points increase, and the alarms are apart. -/
theorem rules_survive (numbers : Numbers) :
    (∀ rules out : Rules, rules.valid = true →
      ∃ read : Rules, fromJson numbers (.array (toJson numbers rules)) out = (true, read) ∧
        (∀ id units, (find read id units).map Rule.shown = (find rules id units).map Rule.shown) ∧
        toJson numbers read = toJson numbers rules) ∧
    ∀ (input : Document) (out : Rules),
      ((fromJson numbers input out).1 = false → (fromJson numbers input out).2 = out) ∧
      ((fromJson numbers input out).1 = true →
        (fromJson numbers input out).2.valid = true ∧ (ids (fromJson numbers input out).2.entries).Nodup ∧
        ∀ rule ∈ (fromJson numbers input out).2.entries, rule.named = true →
          (∀ index : Fin 3, floatLt (rule.points index.castSucc) (rule.points index.succ) = true) ∧
          (rule.lowEnabled = true → rule.highEnabled = true → floatLt rule.low rule.high = true)) := by
  refine ⟨?_, ?_⟩
  · intro rules out valid
    exact ⟨written rules, fromJson_toJson numbers valid out, find_written valid, toJson_written numbers valid⟩
  · intro input out
    obtain refused | ⟨read, accepted, valid⟩ := fromJson_cases numbers input out
    · rw [refused]
      exact ⟨fun _ => rfl, nofun⟩
    · rw [accepted]
      refine ⟨nofun, fun _ => ?_⟩
      obtain ⟨each, nodup⟩ := (valid_iff read).mp valid
      refine ⟨valid, nodup, ?_⟩
      intro rule member named
      have own := each rule member named
      exact ⟨points_increase own, alarms_apart own⟩

/-! ## A reader of doubles -/

def widen (bits : UInt32) : UInt64 :=
  let sign := bits.toNat / 2 ^ 31
  let exponent := bits.toNat / 2 ^ 23 % 2 ^ 8
  let fraction := bits.toNat % 2 ^ 23
  if exponent ≠ 0 then .ofNat (sign * 2 ^ 63 + (exponent + 896) * 2 ^ 52 + fraction * 2 ^ 29)
  else if fraction = 0 then .ofNat (sign * 2 ^ 63)
  else
    -- a subnormal float is a normal double
    let top := fraction.log2
    .ofNat (sign * 2 ^ 63 + (top + 874) * 2 ^ 52 + (fraction - 2 ^ top) * 2 ^ (52 - top))

def narrow (bits : UInt64) : UInt32 :=
  let sign := bits.toNat / 2 ^ 63
  let exponent := bits.toNat / 2 ^ 52 % 2 ^ 11
  let fraction := bits.toNat % 2 ^ 52
  if exponent = 0 then .ofNat (sign * 2 ^ 31)
  else if 897 ≤ exponent then .ofNat (sign * 2 ^ 31 + (exponent - 896) * 2 ^ 23 + fraction / 2 ^ 29)
  else .ofNat (sign * 2 ^ 31 + 2 ^ (exponent - 874) + fraction / 2 ^ (52 - (exponent - 874)))

theorem narrow_parts {sign exponent fraction : Nat} (one : sign < 2) (few : exponent < 2 ^ 11) (rest : fraction < 2 ^ 52) :
    narrow (.ofNat (sign * 2 ^ 63 + exponent * 2 ^ 52 + fraction)) =
      if exponent = 0 then .ofNat (sign * 2 ^ 31)
      else if 897 ≤ exponent then .ofNat (sign * 2 ^ 31 + (exponent - 896) * 2 ^ 23 + fraction / 2 ^ 29)
      else .ofNat (sign * 2 ^ 31 + 2 ^ (exponent - 874) + fraction / 2 ^ (52 - (exponent - 874))) := by
  have bits : (UInt64.ofNat (sign * 2 ^ 63 + exponent * 2 ^ 52 + fraction)).toNat =
      sign * 2 ^ 63 + exponent * 2 ^ 52 + fraction := UInt64.toNat_ofNat_of_lt' (by change _ < 2 ^ 64; omega)
  have first : (sign * 2 ^ 63 + exponent * 2 ^ 52 + fraction) / 2 ^ 63 = sign := by omega
  have second : (sign * 2 ^ 63 + exponent * 2 ^ 52 + fraction) / 2 ^ 52 % 2 ^ 11 = exponent := by omega
  have third : (sign * 2 ^ 63 + exponent * 2 ^ 52 + fraction) % 2 ^ 52 = fraction := by omega
  simp only [narrow, bits, first, second, third]

theorem narrow_widen (bits : UInt32) : narrow (widen bits) = bits := by
  have range := bits.toNat_lt
  have back : UInt32.ofNat bits.toNat = bits := UInt32.ofNat_toNat
  have parts : bits.toNat =
      bits.toNat / 2 ^ 31 * 2 ^ 31 + bits.toNat / 2 ^ 23 % 2 ^ 8 * 2 ^ 23 + bits.toNat % 2 ^ 23 := by omega
  have one : bits.toNat / 2 ^ 31 < 2 := by omega
  have few : bits.toNat / 2 ^ 23 % 2 ^ 8 < 2 ^ 8 := Nat.mod_lt _ (by decide)
  have rest : bits.toNat % 2 ^ 23 < 2 ^ 23 := Nat.mod_lt _ (by decide)
  rw [parts] at back
  rw [widen]
  dsimp only
  generalize bits.toNat / 2 ^ 31 = sign at *
  generalize bits.toNat / 2 ^ 23 % 2 ^ 8 = exponent at *
  generalize bits.toNat % 2 ^ 23 = fraction at *
  split
  case isTrue normal =>
    rw [narrow_parts one (by omega) (by omega), if_neg (by omega), if_pos (by omega), Nat.add_sub_cancel,
      Nat.mul_div_cancel _ (by decide), back]
  case isFalse subnormal =>
    obtain rfl : exponent = 0 := by omega
    split
    case isTrue zero =>
      subst zero
      have same := narrow_parts one (show 0 < 2 ^ 11 by decide) (show 0 < 2 ^ 52 by decide)
      rw [if_pos rfl] at same
      simp only [Nat.zero_mul, Nat.add_zero] at same back
      rw [same, back]
    case isFalse positive =>
      have low : 2 ^ fraction.log2 ≤ fraction := Nat.log2_self_le positive
      have high : fraction < 2 ^ (fraction.log2 + 1) := Nat.lt_log2_self
      have below : fraction.log2 < 23 := (Nat.log2_lt positive).mpr rest
      generalize fraction.log2 = top at *
      have scale : 2 ^ top * 2 ^ (52 - top) = 2 ^ 52 := by rw [← Nat.pow_add, Nat.add_sub_cancel' (by omega)]
      have inside : (fraction - 2 ^ top) * 2 ^ (52 - top) < 2 ^ 52 := by
        rw [← scale]
        exact Nat.mul_lt_mul_of_pos_right (by rw [Nat.pow_succ] at high; omega) (Nat.two_pow_pos _)
      rw [narrow_parts one (by omega) inside, if_neg (by omega), if_neg (by omega), Nat.add_sub_cancel,
        Nat.mul_div_cancel _ (Nat.two_pow_pos _), Nat.add_assoc, Nat.add_sub_cancel' low]
      simpa using back

def doubles : Numbers where
  ofFloat bits := .real (widen bits)
  toFloat?
    | .real bits => some (narrow bits)
    | _ => none
  lossless bits _ := congrArg some (narrow_widen bits)

def pair : Rules where
  entries := [{}, { id := .copy 16 (.literal "oil"), units := .copy 16 (.literal "C") }, {},
    { id := .copy 16 (.literal "rpm"), high := 0x42c60000, highEnabled := true }, {}, {}, {}, {}]

theorem rules_survive_pair :
    ∃ read : Rules, fromJson doubles (.array (toJson doubles pair)) pair = (true, read) ∧
      (∀ id units, (find read id units).map Rule.shown = (find pair id units).map Rule.shown) ∧
      toJson doubles read = toJson doubles pair :=
  (rules_survive doubles).1 pair pair (by decide)

end ApexiDevices.DashGauge
