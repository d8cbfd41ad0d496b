import ApexiDevices.Shared.Calendar
import ApexiDevices.Shared.Codec
import ApexiDevices.Shared.Lines

set_option autoImplicit false

/-!
# The age of the oldest record

A record carries its time as text. The time is read back only where it is
exactly of the form that the clock writes.
-/

namespace ApexiDevices

open Device Calendar

namespace Logic

/-- `%0…d` of a number that is not negative. -/
def zeroPadded (width value : Nat) : Bytes := List.replicate (width - (decimal value).length) 0x30 ++ decimal value

/-- A buffer of 24 bytes has room for 23 characters. -/
def formatTimestamp (year month day hour minute second : Nat) : Bytes :=
  (zeroPadded 4 year ++ ascii "-" ++ zeroPadded 2 month ++ ascii "-" ++ zeroPadded 2 day ++ ascii " " ++
    zeroPadded 2 hour ++ ascii ":" ++ zeroPadded 2 minute ++ ascii ":" ++ zeroPadded 2 second).take 23

def fallbackTimestamp (uptimeMs : UInt32) : Bytes := ascii "boot+" ++ decimal uptimeMs.toNat

end Logic

namespace Timekeeper

/-- `utcTime` is what `gmtime_r` makes of the time, if it can. -/
def transportTimestamp (networkReady : Bool) (uptimeMs : UInt32) (utcTime : Option Instant) : Bytes :=
  if !networkReady then Logic.fallbackTimestamp uptimeMs
  else
    match utcTime with
    | none => Logic.fallbackTimestamp uptimeMs
    | some utcTime =>
      if utcTime.year < 2024 then Logic.fallbackTimestamp uptimeMs
      else
        let timestamp := Logic.formatTimestamp (UInt16.ofNat utcTime.year).toNat (UInt8.ofNat utcTime.month).toNat
          (UInt8.ofNat utcTime.day).toNat (UInt8.ofNat utcTime.hour).toNat (UInt8.ofNat utcTime.minute).toNat
          (UInt8.ofNat utcTime.second).toNat
        timestamp.set 10 0x54 ++ ascii "Z"

end Timekeeper

namespace QueueAge

def digits (number : Nat) : Bytes → Option Nat
  | [] => some number
  | digit :: rest =>
    if digit < 0x30 || 0x39 < digit then none else digits (number * 10 + (digit.toNat - 0x30)) rest

def field (value : Bytes) (start length : Nat) : Option Nat := digits 0 ((value.drop start).take length)

def fields (value : Bytes) : Option Instant := do
  let year ← field value 0 4
  let month ← field value 5 2
  let day ← field value 8 2
  let hour ← field value 11 2
  let minute ← field value 14 2
  let second ← field value 17 2
  return ⟨year, month, day, hour, minute, second⟩

def shaped (value : Bytes) : Bool :=
  value.length == 20 && value.getD 4 0 == 0x2d && value.getD 7 0 == 0x2d && value.getD 10 0 == 0x54 &&
    value.getD 13 0 == 0x3a && value.getD 16 0 == 0x3a && value.getD 19 0 == 0x5a

def daysOf : List Nat := [31, 28, 31, 30, 31, 30, 31, 31, 30, 31, 30, 31]

def inRange (time : Instant) : Bool :=
  !(time.year < 2024 || 2099 < time.year || time.month < 1 || 12 < time.month || 23 < time.hour || 59 < time.minute ||
    59 < time.second) &&
  let leap := time.year % 4 == 0 && (time.year % 100 != 0 || time.year % 400 == 0)
  !(time.day < 1 || daysOf.getD (time.month - 1) 0 + (if time.month == 2 && leap then 1 else 0) < time.day)

/-- Days since 1970, in years that begin in March. -/
def dayNumber (time : Instant) : Int :=
  let y := if time.month ≤ 2 then time.year - 1 else time.year
  let era := y / 400
  let year := y - era * 400
  let doy := (153 * (if 2 < time.month then time.month - 3 else time.month + 9) + 2) / 5 + time.day - 1
  let doe := year * 365 + year / 4 - year / 100 + doy
  (era * 146097 + doe : Nat) - 719468

def seconds (time : Instant) : UInt32 :=
  .ofInt (dayNumber time * 86400 + (time.hour * 3600 + time.minute * 60 + time.second : Nat))

def epoch (value : Option CText) : UInt32 :=
  match value with
  | none => 0
  | some value =>
    if !shaped value.bytes then 0
    else
      match fields value.bytes with
      | none => 0
      | some time => if inRange time then seconds time else 0

/-! ## Numbers of a fixed width -/

def padded : Nat → Nat → Bytes
  | 0, _ => []
  | width + 1, value => UInt8.ofNat (0x30 + value / 10 ^ width) :: padded width (value % 10 ^ width)

@[simp] theorem padded_length (width value : Nat) : (padded width value).length = width := by
  induction width generalizing value with
  | zero => rfl
  | succ width ih => rw [padded, List.length_cons, ih]

theorem digit_toNat {digit : Nat} (small : digit < 10) : (UInt8.ofNat (0x30 + digit)).toNat = 0x30 + digit := by
  rw [UInt8.toNat_ofNat']
  omega

theorem leading_lt {width value : Nat} (fits : value < 10 ^ (width + 1)) : value / 10 ^ width < 10 := by
  rw [Nat.div_lt_iff_lt_mul (Nat.pow_pos (by decide))]
  rwa [pow_succ, Nat.mul_comm] at fits

theorem digits_eq {bytes : Bytes} {number result : Nat} :
    digits number bytes = some result ↔
      ∃ value, value < 10 ^ bytes.length ∧ result = number * 10 ^ bytes.length + value ∧
        bytes = padded bytes.length value := by
  induction bytes generalizing number with
  | nil =>
    simp only [digits, Option.some.injEq, List.length_nil, pow_zero, Nat.lt_one_iff, Nat.mul_one, padded]
    constructor
    · rintro rfl
      exact ⟨0, rfl, rfl, trivial⟩
    · rintro ⟨_, rfl, rfl, _⟩
      rfl
  | cons digit rest ih =>
    have scaled (a b : Nat) : (a * 10 + b) * 10 ^ rest.length = a * 10 ^ (rest.length + 1) + b * 10 ^ rest.length := by
      rw [pow_succ]
      ring
    have positive : 0 < 10 ^ rest.length := Nat.pow_pos (by decide)
    have zero : (0x30 : UInt8).toNat = 0x30 := rfl
    have nine : (0x39 : UInt8).toNat = 0x39 := rfl
    rw [digits, List.length_cons]
    constructor
    · intro read
      split at read
      · cases read
      · rename_i within
        simp only [Bool.or_eq_true, decide_eq_true_eq, not_or, UInt8.lt_iff_toNat_lt, not_lt, zero, nine] at within
        obtain ⟨value, fits, rfl, same⟩ := ih.mp read
        have small : digit.toNat - 0x30 < 10 := by omega
        refine ⟨(digit.toNat - 0x30) * 10 ^ rest.length + value, ?_, ?_, ?_⟩
        · have most : (digit.toNat - 0x30) * 10 ^ rest.length ≤ 9 * 10 ^ rest.length :=
            Nat.mul_le_mul_right _ (by omega)
          rw [pow_succ]
          omega
        · rw [scaled]
          omega
        · have leading : ((digit.toNat - 0x30) * 10 ^ rest.length + value) / 10 ^ rest.length = digit.toNat - 0x30 := by
            rw [Nat.mul_comm, Nat.mul_add_div positive, Nat.div_eq_of_lt fits, Nat.add_zero]
          have trailing : ((digit.toNat - 0x30) * 10 ^ rest.length + value) % 10 ^ rest.length = value := by
            rw [Nat.mul_comm, Nat.mul_add_mod, Nat.mod_eq_of_lt fits]
          have byte : UInt8.ofNat (0x30 + (digit.toNat - 0x30)) = digit := by
            rw [Nat.add_sub_cancel' (by omega), UInt8.ofNat_toNat]
          rw [padded, leading, trailing, byte, ← same]
    · rintro ⟨value, fits, rfl, same⟩
      have small := leading_lt fits
      rw [padded, List.cons.injEq] at same
      obtain ⟨first, later⟩ := same
      have code : digit.toNat = 0x30 + value / 10 ^ rest.length := by rw [first, digit_toNat small]
      rw [if_neg, code, Nat.add_sub_cancel_left, ih]
      · refine ⟨value % 10 ^ rest.length, Nat.mod_lt _ positive, ?_, later⟩
        have parts := Nat.div_add_mod value (10 ^ rest.length)
        rw [Nat.mul_comm] at parts
        rw [scaled]
        omega
      · simp only [Bool.or_eq_true, decide_eq_true_eq, not_or, UInt8.lt_iff_toNat_lt, not_lt, zero, nine, code]
        exact ⟨Nat.le_add_right _ _, Nat.add_le_add_left (Nat.le_of_lt_succ small) _⟩

theorem padded_lt {width first second : Nat} (fits : first < 10 ^ width) (other : second < 10 ^ width)
    (rest later : Bytes) :
    padded width first ++ rest < padded width second ++ later ↔ first < second ∨ first = second ∧ rest < later := by
  induction width generalizing first second with
  | zero =>
    rw [pow_zero, Nat.lt_one_iff] at fits other
    simp [padded, fits, other]
  | succ width ih =>
    have positive : 0 < 10 ^ width := Nat.pow_pos (by decide)
    have here := digit_toNat (leading_lt fits)
    have there := digit_toNat (leading_lt other)
    have order : UInt8.ofNat (0x30 + first / 10 ^ width) < UInt8.ofNat (0x30 + second / 10 ^ width) ↔
        first / 10 ^ width < second / 10 ^ width := by
      rw [UInt8.lt_iff_toNat_lt, here, there]
      omega
    have same : UInt8.ofNat (0x30 + first / 10 ^ width) = UInt8.ofNat (0x30 + second / 10 ^ width) ↔
        first / 10 ^ width = second / 10 ^ width := by
      rw [← UInt8.toNat_inj, here, there]
      omega
    have whole := Nat.div_add_mod first (10 ^ width)
    have others := Nat.div_add_mod second (10 ^ width)
    have bound := Nat.mod_lt first positive
    have limit := Nat.mod_lt second positive
    rw [padded, padded, List.cons_append, List.cons_append, List.cons_lt_cons_iff, ih bound limit, order, same]
    rcases Nat.lt_trichotomy (first / 10 ^ width) (second / 10 ^ width) with less | equal | more
    · have step := Nat.mul_le_mul_left (10 ^ width) less
      rw [Nat.mul_succ] at step
      have below : first < second := by omega
      simp [less, below]
    · have below : first < second ↔ first % 10 ^ width < second % 10 ^ width := by
        rw [equal] at whole
        omega
      have level : first = second ↔ first % 10 ^ width = second % 10 ^ width := by
        rw [equal] at whole
        omega
      rw [below, level]
      simp [equal]
    · have step := Nat.mul_le_mul_left (10 ^ width) more
      rw [Nat.mul_succ] at step
      have above : second < first := by omega
      simp [Nat.lt_asymm more, Nat.ne_of_gt more, Nat.lt_asymm above, Nat.ne_of_gt above]

/-! ## Stamps -/

def stamp (time : Instant) : Bytes :=
  padded 4 time.year ++ 0x2d :: (padded 2 time.month ++ 0x2d :: (padded 2 time.day ++ 0x54 ::
    (padded 2 time.hour ++ 0x3a :: (padded 2 time.minute ++ 0x3a :: (padded 2 time.second ++ [0x5a])))))

structure Fits (time : Instant) : Prop where
  year : time.year < 10 ^ 4
  month : time.month < 10 ^ 2
  day : time.day < 10 ^ 2
  hour : time.hour < 10 ^ 2
  minute : time.minute < 10 ^ 2
  second : time.second < 10 ^ 2

variable {value : Bytes}

theorem field_eq {start length number : Nat} (inside : start + length ≤ value.length) :
    field value start length = some number ↔
      number < 10 ^ length ∧ (value.drop start).take length = padded length number := by
  have size : ((value.drop start).take length).length = length := by
    rw [List.length_take, List.length_drop]
    omega
  rw [field, digits_eq, size]
  constructor
  · rintro ⟨_, fits, rfl, same⟩
    rw [Nat.zero_mul, Nat.zero_add]
    exact ⟨fits, same⟩
  · rintro ⟨fits, same⟩
    exact ⟨number, fits, by rw [Nat.zero_mul, Nat.zero_add], same⟩

theorem drop_separator {index : Nat} {separator : UInt8} (inside : index < value.length)
    (here : value.getD index 0 = separator) : value.drop index = separator :: value.drop (index + 1) := by
  have element : value[index] = separator := by simpa [inside] using here
  rw [List.drop_eq_getElem_cons inside, element]

theorem drop_number {start length number : Nat} (here : (value.drop start).take length = padded length number) :
    value.drop start = padded length number ++ value.drop (start + length) := by
  have parts := List.take_append_drop length (value.drop start)
  rw [here, List.drop_drop] at parts
  exact parts.symm

theorem fields_eq (time : Instant) :
    (shaped value = true ∧ fields value = some time) ↔ (Fits time ∧ value = stamp time) := by
  constructor
  · rintro ⟨shape, read⟩
    simp only [shaped, Bool.and_eq_true, beq_iff_eq] at shape
    obtain ⟨⟨⟨⟨⟨⟨size, first⟩, second⟩, t⟩, third⟩, fourth⟩, z⟩ := shape
    simp only [fields, Option.bind_eq_bind, Option.bind_eq_some_iff, Option.pure_def, Option.some.injEq] at read
    obtain ⟨year, years, month, months, day, days, hour, hours, minute, minutes, second_, seconds_, rfl⟩ := read
    obtain ⟨yearFits, years⟩ := (field_eq (by omega)).mp years
    obtain ⟨monthFits, months⟩ := (field_eq (by omega)).mp months
    obtain ⟨dayFits, days⟩ := (field_eq (by omega)).mp days
    obtain ⟨hourFits, hours⟩ := (field_eq (by omega)).mp hours
    obtain ⟨minuteFits, minutes⟩ := (field_eq (by omega)).mp minutes
    obtain ⟨secondFits, seconds_⟩ := (field_eq (by omega)).mp seconds_
    refine ⟨⟨yearFits, monthFits, dayFits, hourFits, minuteFits, secondFits⟩, ?_⟩
    have ended : value.drop 20 = [] := List.drop_eq_nil_of_le (Nat.le_of_eq size)
    calc value = value.drop 0 := rfl
      _ = _ := by
        rw [drop_number years, drop_separator (by omega) first, drop_number months, drop_separator (by omega) second,
          drop_number days, drop_separator (by omega) t, drop_number hours, drop_separator (by omega) third,
          drop_number minutes, drop_separator (by omega) fourth, drop_number seconds_, drop_separator (by omega) z, ended]
        rfl
  · rintro ⟨fits, rfl⟩
    refine ⟨rfl, ?_⟩
    have size : (stamp time).length = 20 := by simp [stamp]
    have year : field (stamp time) 0 4 = some time.year := (field_eq (by omega)).mpr ⟨fits.year, rfl⟩
    have month : field (stamp time) 5 2 = some time.month := (field_eq (by omega)).mpr ⟨fits.month, rfl⟩
    have day : field (stamp time) 8 2 = some time.day := (field_eq (by omega)).mpr ⟨fits.day, rfl⟩
    have hour : field (stamp time) 11 2 = some time.hour := (field_eq (by omega)).mpr ⟨fits.hour, rfl⟩
    have minute : field (stamp time) 14 2 = some time.minute := (field_eq (by omega)).mpr ⟨fits.minute, rfl⟩
    have second : field (stamp time) 17 2 = some time.second := (field_eq (by omega)).mpr ⟨fits.second, rfl⟩
    rw [fields, year, month, day, hour, minute, second]
    rfl

theorem stamp_lt {first second : Instant} (fits : Fits first) (other : Fits second) :
    stamp first < stamp second ↔ first.Before second := by
  have cons (byte : UInt8) (rest later : Bytes) : byte :: rest < byte :: later ↔ rest < later := by
    simp
  have same (rest : Bytes) : ¬rest < rest := List.lt_irrefl rest
  simp only [stamp, padded_lt fits.year other.year, padded_lt fits.month other.month, padded_lt fits.day other.day,
    padded_lt fits.hour other.hour, padded_lt fits.minute other.minute, padded_lt fits.second other.second, cons, same,
    and_false, or_false]
  rfl

/-! ## The day number -/

theorem daysOf_eq (year : Nat) {month : Nat} (valid : 1 ≤ month ∧ month ≤ 12) :
    daysOf.getD (month - 1) 0 + (if month == 2 && leap year then 1 else 0) = daysInMonth year month := by
  obtain ⟨first, last⟩ := valid
  interval_cases month <;> cases regular : leap year <;> simp [daysOf, daysInMonth, regular]

theorem inRange_iff (time : Instant) : inRange time = true ↔ time.Valid ∧ 2024 ≤ time.year ∧ time.year ≤ 2099 := by
  have leaps : (time.year % 4 == 0 && (time.year % 100 != 0 || time.year % 400 == 0)) = leap time.year := rfl
  simp only [inRange, leaps, Bool.and_eq_true (!_), Bool.not_eq_true', Bool.or_eq_false_iff, decide_eq_false_iff_not, not_lt]
  constructor
  · rintro ⟨⟨⟨⟨⟨⟨⟨least, most⟩, first⟩, last⟩, hour⟩, minute⟩, second⟩, day, fits⟩
    rw [daysOf_eq time.year ⟨first, last⟩] at fits
    exact ⟨⟨⟨first, last⟩, ⟨day, fits⟩, Nat.lt_succ_of_le hour, Nat.lt_succ_of_le minute, Nat.lt_succ_of_le second⟩,
      least, most⟩
  · rintro ⟨valid, least, most⟩
    rw [daysOf_eq time.year valid.month]
    exact ⟨⟨⟨⟨⟨⟨⟨least, most⟩, valid.month.1⟩, valid.month.2⟩, Nat.le_of_lt_succ valid.hour⟩,
      Nat.le_of_lt_succ valid.minute⟩, Nat.le_of_lt_succ valid.second⟩, valid.day⟩

theorem march_months (year : Nat) {month : Nat} (march : 2 < month) (last : month ≤ 12) :
    daysBeforeMonth year month = (153 * (month - 3) + 2) / 5 + 59 + if leap year then 1 else 0 := by
  cases regular : leap year <;> interval_cases month <;> simp [daysBeforeMonth, daysInMonth, regular]

theorem first_months (year : Nat) {month : Nat} (first : 1 ≤ month) (february : ¬2 < month) :
    daysBeforeMonth year month + 306 = (153 * (month + 9) + 2) / 5 := by
  interval_cases month <;> rfl

theorem era_days (year : Nat) :
    year / 400 * 146097 + ((year - year / 400 * 400) * 365 + (year - year / 400 * 400) / 4 -
      (year - year / 400 * 400) / 100) = 365 * year + year / 4 - year / 100 + year / 400 := by
  omega

theorem dayNumber_eq {time : Instant} (valid : time.Valid) (least : 1 ≤ time.year) :
    dayNumber time + 719528 = time.days := by
  have positive := valid.day.1
  obtain ⟨year, same⟩ := Nat.exists_eq_add_of_le' least
  have before := daysBeforeYear_succ year
  by_cases march : 2 < time.month
  · have months := march_months time.year march valid.month.2
    have eras := era_days time.year
    have regular : leap time.year = true ↔ time.year % 4 = 0 ∧ (time.year % 100 ≠ 0 ∨ time.year % 400 = 0) := by
      simp [leap]
    have early : ¬time.month ≤ 2 := by omega
    simp only [dayNumber, Instant.days, if_pos march, if_neg early, months]
    rw [same] at regular eras ⊢
    rw [before]
    split <;> rename_i leaps <;> rw [regular] at leaps <;> omega
  · have months := first_months time.year valid.month.1 march
    have eras := era_days (time.year - 1)
    have early : time.month ≤ 2 := by omega
    simp only [dayNumber, Instant.days, if_neg march, if_pos early]
    rw [same, Nat.add_sub_cancel] at eras ⊢
    rw [same] at months
    rw [before]
    omega

/-- A time that a stamp is taken for: it exists and is in one of the years that are known. -/
def Known (time : Instant) : Prop := time.Valid ∧ 2024 ≤ time.year ∧ time.year ≤ 2099

theorem Known.count {time : Instant} (known : Known time) :
    62167219200 + 1704067200 ≤ time.count ∧ time.count < 62167219200 + 4102444800 := by
  obtain ⟨valid, least, most⟩ := known
  have bound := Instant.days_lt valid
  have day := valid.day
  have times := And.intro valid.hour (And.intro valid.minute valid.second)
  have first : daysBeforeYear 2024 = 739251 := daysBeforeYear_succ 2023
  have last : daysBeforeYear 2100 = 767010 := daysBeforeYear_succ 2099
  have low : daysBeforeYear 2024 ≤ daysBeforeYear time.year := by
    rcases Nat.lt_or_eq_of_le least with later | same
    · exact (Nat.le_add_right _ _).trans (daysBeforeYear_before later)
    · rw [same]
  have high : daysBeforeYear time.year + daysInYear time.year ≤ daysBeforeYear 2100 :=
    daysBeforeYear_before (Nat.lt_succ_of_le most)
  have least : daysBeforeYear time.year ≤ time.days := by
    rw [Instant.days]
    omega
  simp only [Instant.count]
  omega

theorem seconds_eq {time : Instant} (known : Known time) :
    62167219200 + (seconds time).toNat = time.count := by
  obtain ⟨low, high⟩ := known.count
  have days := dayNumber_eq known.1 ((by decide : 1 ≤ 2024).trans known.2.1)
  have number : dayNumber time * 86400 + (time.hour * 3600 + time.minute * 60 + time.second : Nat) =
      ((time.count - 62167219200 : Nat) : Int) := by
    simp only [Instant.count] at low ⊢
    omega
  rw [seconds, number, UInt32.ofInt, UInt32.toNat_ofNat']
  omega

theorem Known.fits {time : Instant} (known : Known time) : Fits time := by
  obtain ⟨valid, _, most⟩ := known
  have days : time.day ≤ 31 := valid.day.2.trans (by
    unfold daysInMonth
    repeat' split
    all_goals decide)
  exact ⟨Nat.lt_of_le_of_lt most (by decide), Nat.lt_of_le_of_lt valid.month.2 (by decide),
    Nat.lt_of_le_of_lt days (by decide), valid.hour.trans (by decide), valid.minute.trans (by decide),
    valid.second.trans (by decide)⟩

theorem padded_digit {width value : Nat} (fits : value < 10 ^ width) :
    ∀ byte ∈ padded width value, 0x30 ≤ byte.toNat ∧ byte.toNat ≤ 0x39 := by
  induction width generalizing value with
  | zero => exact fun _ member => nomatch member
  | succ width ih =>
    have small := leading_lt fits
    rw [padded, List.forall_mem_cons, digit_toNat small]
    exact ⟨⟨Nat.le_add_right _ _, Nat.add_le_add_left (Nat.le_of_lt_succ small) _⟩,
      ih (Nat.mod_lt _ (Nat.pow_pos (by decide)))⟩

theorem stamp_terminated {time : Instant} (fits : Fits time) : 0 ∉ stamp time := by
  have digits {width value : Nat} (fits : value < 10 ^ width) : 0 ∉ padded width value :=
    fun member => absurd (padded_digit fits 0 member).1 (by decide)
  simp [stamp, digits fits.year, digits fits.month, digits fits.day, digits fits.hour, digits fits.minute,
    digits fits.second]

theorem epoch_stamp {value : CText} {time : Instant} (known : Known time) (same : value.bytes = stamp time) :
    epoch (some value) = seconds time := by
  obtain ⟨shape, read⟩ := (fields_eq time).mpr ⟨known.fits, same⟩
  rw [epoch]
  simp only [shape, read, (inRange_iff time).mpr known, Bool.not_true, Bool.false_eq_true, if_false, if_true]

theorem stamp_of_epoch {value : CText} (read : epoch (some value) ≠ 0) :
    ∃ time, Known time ∧ value.bytes = stamp time := by
  rw [epoch] at read
  split at read
  · exact absurd rfl read
  · rename_i shape
    split at read
    · exact absurd rfl read
    · rename_i time fields
      split at read
      · rename_i range
        have shape : shaped value.bytes = true := by simpa using shape
        exact ⟨time, (inRange_iff time).mp range, ((fields_eq time).mp ⟨shape, fields⟩).2⟩
      · exact absurd rfl read

theorem epoch_stamp_ne_zero {value : CText} {time : Instant} (known : Known time) (same : value.bytes = stamp time) :
    epoch (some value) ≠ 0 := by
  intro zero
  have counted := seconds_eq known
  have low := known.count.1
  rw [epoch_stamp known same] at zero
  rw [zero, UInt32.toNat_zero] at counted
  omega

/-! ## The clock's own text -/

theorem zeroPadded_two {value : Nat} (fits : value < 100) : Logic.zeroPadded 2 value = padded 2 value := by
  have each : ∀ value : Fin 100, Logic.zeroPadded 2 value = padded 2 value := by decide
  exact each ⟨value, fits⟩

theorem zeroPadded_year {year : Nat} (least : 2024 ≤ year) (most : year ≤ 2099) :
    Logic.zeroPadded 4 year = padded 4 year := by
  have each : ∀ offset : Fin 76, Logic.zeroPadded 4 (2024 + offset) = padded 4 (2024 + offset) := by decide
  have here := each ⟨year - 2024, by omega⟩
  rwa [Nat.add_sub_cancel' least] at here

theorem transportTimestamp_stamp {time : Instant} (known : Known time) (uptimeMs : UInt32) :
    Timekeeper.transportTimestamp true uptimeMs (some time) = stamp time := by
  have fits := known.fits
  obtain ⟨valid, least, most⟩ := known
  have year : (UInt16.ofNat time.year).toNat = time.year := by
    rw [UInt16.toNat_ofNat']
    omega
  have small {value : Nat} (fits : value < 10 ^ 2) : (UInt8.ofNat value).toNat = value := by
    rw [UInt8.toNat_ofNat']
    omega
  have marks : ascii "-" = [0x2d] ∧ ascii ":" = [0x3a] ∧ ascii " " = [0x20] ∧ ascii "Z" = [0x5a] := by decide
  rw [Timekeeper.transportTimestamp]
  simp only [Bool.not_true, Bool.false_eq_true, if_false, if_neg (Nat.not_lt.mpr least), year, small fits.month,
    small fits.day, small fits.hour, small fits.minute, small fits.second, Logic.formatTimestamp,
    zeroPadded_year least most, zeroPadded_two fits.month, zeroPadded_two fits.day, zeroPadded_two fits.hour,
    zeroPadded_two fits.minute, zeroPadded_two fits.second, marks.1, marks.2.1, marks.2.2.1, marks.2.2.2]
  rfl

/-- Only stamps of existing seconds are read, as the calendar counts them, and the clock's own text among them. -/
theorem epoch_calendar :
    (∀ value : CText, epoch (some value) ≠ 0 ↔ ∃ time, Known time ∧ value.bytes = stamp time) ∧
    (∀ (value : CText) (time : Instant), Known time → value.bytes = stamp time →
      utc (epoch (some value)).toNat = time) ∧
    (∀ first second : CText, epoch (some first) ≠ 0 → epoch (some second) ≠ 0 →
      (epoch (some first) < epoch (some second) ↔ first.bytes < second.bytes)) ∧
    ∀ (seconds : Nat) (uptimeMs : UInt32), 2024 ≤ (utc seconds).year → (utc seconds).year ≤ 2099 →
      (epoch (some (.of (Timekeeper.transportTimestamp true uptimeMs (some (utc seconds)))))).toNat = seconds := by
  refine ⟨fun value => ⟨stamp_of_epoch, fun ⟨_, known, same⟩ => epoch_stamp_ne_zero known same⟩,
    fun value time known same => ?calendar, fun first second read other => ?order,
    fun count uptimeMs least most => ?clock⟩
  case calendar =>
    rw [epoch_stamp known same]
    exact utc_of_count known.1 (seconds_eq known).symm
  case order =>
    obtain ⟨time, known, same⟩ := stamp_of_epoch read
    obtain ⟨later, others, equal⟩ := stamp_of_epoch other
    have counted := seconds_eq known
    have counts := seconds_eq others
    rw [epoch_stamp known same, epoch_stamp others equal, same, equal, stamp_lt known.fits others.fits,
      ← Instant.count_lt_iff known.1 others.1, UInt32.lt_iff_toNat_lt]
    omega
  case clock =>
    have known : Known (utc count) := ⟨utc_valid count, least, most⟩
    have text : (CText.of (Timekeeper.transportTimestamp true uptimeMs (some (utc count)))).bytes = stamp (utc count) := by
      rw [transportTimestamp_stamp known, CText.of_eq (stamp_terminated known.fits)]
    have counted := seconds_eq known
    rw [utc_count] at counted
    rw [epoch_stamp known text]
    omega

theorem epoch_calendar_leap :
    utc (epoch (some (.literal "2024-02-29T12:34:56Z"))).toNat = ⟨2024, 2, 29, 12, 34, 56⟩ ∧
      (epoch (some (.of (Timekeeper.transportTimestamp true 0 (some (utc 1704067200)))))).toNat = 1704067200 := by
  obtain ⟨_, calendar, _, clock⟩ := epoch_calendar
  have first : utc 1704067200 = ⟨2024, 1, 1, 0, 0, 0⟩ :=
    utc_of_count ⟨by decide, by decide, by decide, by decide, by decide⟩ (by
      have years : daysBeforeYear 2024 = 739251 := daysBeforeYear_succ 2023
      simp only [Instant.count, Instant.days, years]
      rfl)
  refine ⟨calendar _ _ ⟨⟨by decide, by decide, by decide, by decide, by decide⟩, by decide, by decide⟩ (by decide),
    clock 1704067200 0 ?_ ?_⟩
  all_goals simp [first]

end QueueAge

end ApexiDevices
