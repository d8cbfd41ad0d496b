import Mathlib.Tactic.Common
import Mathlib.Tactic.IntervalCases

set_option autoImplicit false

/-!
# The Gregorian calendar in seconds

Instants follow each other one second at a time, in the calendar continued
backwards to its year zero. Their count is also a sum of years, months and days.
-/

namespace Device

namespace Calendar

def leap (year : Nat) : Bool := year % 4 == 0 && (year % 100 != 0 || year % 400 == 0)

def daysInYear (year : Nat) : Nat := if leap year then 366 else 365

def daysInMonth (year : Nat) : Nat → Nat
  | 2 => if leap year then 29 else 28
  | 4 | 6 | 9 | 11 => 30
  | _ => 31

structure Instant where
  year : Nat
  month : Nat
  day : Nat
  hour : Nat
  minute : Nat
  second : Nat
  deriving DecidableEq

structure Instant.Valid (instant : Instant) : Prop where
  month : 1 ≤ instant.month ∧ instant.month ≤ 12
  day : 1 ≤ instant.day ∧ instant.day ≤ daysInMonth instant.year instant.month
  hour : instant.hour < 24
  minute : instant.minute < 60
  second : instant.second < 60

/-- The instant one second later. -/
def Instant.next (instant : Instant) : Instant :=
  if instant.second + 1 < 60 then { instant with second := instant.second + 1 }
  else if instant.minute + 1 < 60 then { instant with minute := instant.minute + 1, second := 0 }
  else if instant.hour + 1 < 24 then { instant with hour := instant.hour + 1, minute := 0, second := 0 }
  else if instant.day + 1 ≤ daysInMonth instant.year instant.month then
    ⟨instant.year, instant.month, instant.day + 1, 0, 0, 0⟩
  else if instant.month + 1 ≤ 12 then ⟨instant.year, instant.month + 1, 1, 0, 0, 0⟩
  else ⟨instant.year + 1, 1, 1, 0, 0, 0⟩

/-- The instant so many seconds after the beginning of 1970. -/
def utc : Nat → Instant
  | 0 => ⟨1970, 1, 1, 0, 0, 0⟩
  | seconds + 1 => (utc seconds).next

def daysBeforeYear : Nat → Nat
  | 0 => 0
  | year + 1 => daysBeforeYear year + daysInYear year

def daysBeforeMonth (year : Nat) : Nat → Nat
  | 0 | 1 => 0
  | month + 2 => daysBeforeMonth year (month + 1) + daysInMonth year (month + 1)

namespace Instant

def days (instant : Instant) : Nat :=
  daysBeforeYear instant.year + daysBeforeMonth instant.year instant.month + (instant.day - 1)

/-- The seconds since the beginning of year zero. -/
def count (instant : Instant) : Nat :=
  instant.days * 86400 + instant.hour * 3600 + instant.minute * 60 + instant.second

end Instant

theorem daysBeforeMonth_succ (year : Nat) {month : Nat} (first : 1 ≤ month) :
    daysBeforeMonth year (month + 1) = daysBeforeMonth year month + daysInMonth year month := by
  obtain ⟨month, rfl⟩ := Nat.exists_eq_add_of_le' first
  rfl

theorem daysInMonth_pos (year month : Nat) : 28 ≤ daysInMonth year month := by
  unfold daysInMonth
  repeat' split
  all_goals decide

theorem daysBeforeMonth_year (year : Nat) : daysBeforeMonth year 12 + daysInMonth year 12 = daysInYear year := by
  cases regular : leap year <;> simp [daysBeforeMonth, daysInMonth, daysInYear, regular]

theorem daysBeforeMonth_before (year : Nat) {month later : Nat} (first : 1 ≤ month) (before : month < later) :
    daysBeforeMonth year month + daysInMonth year month ≤ daysBeforeMonth year later := by
  induction later, before using Nat.le_induction with
  | base => rw [daysBeforeMonth_succ year first]
  | succ later after ih =>
    rw [daysBeforeMonth_succ year (by omega)]
    omega

theorem daysBeforeYear_before {year later : Nat} (before : year < later) :
    daysBeforeYear year + daysInYear year ≤ daysBeforeYear later := by
  induction later, before using Nat.le_induction with
  | base => exact Nat.le_refl _
  | succ later after ih =>
    rw [daysBeforeYear]
    omega

theorem daysBeforeYear_succ (year : Nat) :
    daysBeforeYear (year + 1) = 366 + 365 * year + year / 4 - year / 100 + year / 400 := by
  induction year with
  | zero => rfl
  | succ year ih =>
    rw [daysBeforeYear, ih, daysInYear]
    simp only [leap, Bool.and_eq_true, Bool.or_eq_true, beq_iff_eq, bne_iff_ne, ne_eq]
    split <;> omega

namespace Instant

variable {instant : Instant}

theorem days_lt (valid : instant.Valid) : instant.days < daysBeforeYear instant.year + daysInYear instant.year := by
  have day := valid.day
  have inside : daysBeforeMonth instant.year instant.month + daysInMonth instant.year instant.month ≤
      daysInYear instant.year := by
    rw [← daysBeforeMonth_year]
    rcases Nat.lt_or_eq_of_le valid.month.2 with earlier | last
    · have before := daysBeforeMonth_before instant.year valid.month.1 earlier
      omega
    · rw [last]
  rw [days]
  omega

theorem next_valid (valid : instant.Valid) : instant.next.Valid := by
  have first (year month : Nat) : 1 ≤ daysInMonth year month := (by decide : 1 ≤ 28).trans (daysInMonth_pos year month)
  have start : 0 < 24 ∧ 0 < 60 := by decide
  unfold next
  split
  · exact ⟨valid.month, valid.day, valid.hour, valid.minute, ‹_›⟩
  split
  · exact ⟨valid.month, valid.day, valid.hour, ‹_›, start.2⟩
  split
  · exact ⟨valid.month, valid.day, ‹_›, start.2, start.2⟩
  split
  · exact ⟨valid.month, ⟨Nat.succ_pos _, ‹_›⟩, start.1, start.2, start.2⟩
  split
  · exact ⟨⟨Nat.succ_pos _, ‹_›⟩, ⟨Nat.le_refl _, first _ _⟩, start.1, start.2, start.2⟩
  · exact ⟨⟨Nat.le_refl 1, Nat.succ_pos _⟩, ⟨Nat.le_refl _, first _ _⟩, start.1, start.2, start.2⟩

theorem next_count (valid : instant.Valid) : instant.next.count = instant.count + 1 := by
  have day := valid.day
  have hour := valid.hour
  have minute := valid.minute
  have second := valid.second
  unfold next
  split
  · simp only [count, days]
    omega
  split
  · simp only [count, days]
    omega
  split
  · simp only [count, days]
    omega
  split
  · simp only [count, days]
    omega
  split
  · -- The last day of a month that is not the last.
    have month := daysBeforeMonth_succ instant.year valid.month.1
    simp only [count, days, month]
    omega
  · rename_i ended _
    have last : instant.month = 12 := by
      have month := valid.month
      omega
    have whole := daysBeforeMonth_year instant.year
    have year : daysBeforeYear (instant.year + 1) = daysBeforeYear instant.year + daysInYear instant.year := rfl
    have january : daysBeforeMonth (instant.year + 1) 1 = 0 := rfl
    rw [last] at day ended
    simp only [count, days, last, year, january]
    omega

end Instant

theorem utc_valid (seconds : Nat) : (utc seconds).Valid := by
  induction seconds with
  | zero => exact ⟨by decide, by decide, by decide, by decide, by decide⟩
  | succ seconds ih => exact Instant.next_valid ih

theorem utc_count (seconds : Nat) : (utc seconds).count = 62167219200 + seconds := by
  induction seconds with
  | zero =>
    have years := daysBeforeYear_succ 1969
    simp only [utc, Instant.count, Instant.days, years]
    rfl
  | succ seconds ih =>
    rw [utc, Instant.next_count (utc_valid seconds), ih]
    rfl

namespace Instant

def Before (first second : Instant) : Prop :=
  first.year < second.year ∨ first.year = second.year ∧
    (first.month < second.month ∨ first.month = second.month ∧
      (first.day < second.day ∨ first.day = second.day ∧
        (first.hour < second.hour ∨ first.hour = second.hour ∧
          (first.minute < second.minute ∨ first.minute = second.minute ∧ first.second < second.second))))

variable {first second : Instant}

theorem before_or (first second : Instant) : first.Before second ∨ first = second ∨ second.Before first := by
  obtain ⟨year, month, day, hour, minute, second_⟩ := first
  obtain ⟨year', month', day', hour', minute', second'⟩ := second
  simp only [Before, mk.injEq]
  omega

theorem count_lt (valid : first.Valid) (other : second.Valid) (before : first.Before second) :
    first.count < second.count := by
  have day := valid.day
  have later := other.day
  have times := And.intro valid.hour (And.intro valid.minute valid.second)
  rcases before with years | ⟨year, months | ⟨month, days_ | ⟨day_, times_⟩⟩⟩
  · have bound := days_lt valid
    have after := daysBeforeYear_before years
    have least : daysBeforeYear second.year ≤ second.days := by
      rw [days]
      omega
    simp only [count]
    omega
  · have after := daysBeforeMonth_before second.year valid.month.1 months
    simp only [count, days, year] at day ⊢
    omega
  · simp only [count, days, year, month] at day later ⊢
    omega
  · simp only [count, days, year, month, day_]
    omega

theorem count_lt_iff (valid : first.Valid) (other : second.Valid) :
    first.count < second.count ↔ first.Before second := by
  constructor
  · intro less
    rcases before_or first second with before | same | after
    · exact before
    · rw [same] at less
      exact absurd less (Nat.lt_irrefl _)
    · exact absurd less (Nat.lt_asymm (count_lt other valid after))
  · exact count_lt valid other

theorem count_inj (valid : first.Valid) (other : second.Valid) (same : first.count = second.count) :
    first = second := by
  rcases before_or first second with before | equal | after
  · exact absurd same (Nat.ne_of_lt (count_lt valid other before))
  · exact equal
  · exact absurd same.symm (Nat.ne_of_lt (count_lt other valid after))

end Instant

/-- Every instant since 1970 is reached, after as many seconds as its count says. -/
theorem utc_of_count {instant : Instant} (valid : instant.Valid) {seconds : Nat}
    (counted : instant.count = 62167219200 + seconds) : utc seconds = instant :=
  Instant.count_inj (utc_valid seconds) valid ((utc_count seconds).trans counted.symm)

end Calendar

end Device
