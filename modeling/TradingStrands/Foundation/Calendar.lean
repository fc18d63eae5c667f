import Mathlib.Data.Int.Basic
import Mathlib.Data.List.Basic
import Mathlib.Data.Nat.Basic
import Mathlib.Tactic.Ring

/-!
Owns the calendar: a moment in seconds since 1970 as the fields of a date and a
time of day in UTC, for years before and after 1970 alike. `secondsOf` reads the
fields back, so two moments with the same fields are the same second.

Leap seconds and the range of the platform's clock are left out.
-/

namespace TradingStrands.Foundation

/-- The fields of a moment. -/
structure Moment where
  year : Int
  month : Nat
  day : Nat
  hour : Nat
  minute : Nat
  second : Nat
deriving DecidableEq, Repr

/-- Whether a year has a leap day. -/
def isLeap (year : Int) : Bool := year % 4 = 0 && (year % 100 ≠ 0 || year % 400 = 0)

/-- The days of a year before each of its months. -/
def monthStarts (leap : Bool) : List Nat :=
  if leap then [0, 31, 60, 91, 121, 152, 182, 213, 244, 274, 305, 335]
  else [0, 31, 59, 90, 120, 151, 181, 212, 243, 273, 304, 334]

/-- The month that a day of the year is in, counted from one. -/
def monthOfDay (leap : Bool) (dayOfYear : Nat) : Nat :=
  ((monthStarts leap).filter fun start => start ≤ dayOfYear).length

def daysBeforeMonth (leap : Bool) (month : Nat) : Nat := (monthStarts leap).getD (month - 1) 0

/-- The days from the first day of year one to the first day of a year. -/
def daysBeforeYear (year : Int) : Int :=
  let past := year - 1
  past * 365 + past / 4 - past / 100 + past / 400

/-- The year and the day of the year of a day, which counts from the first day of
year one: four centuries, centuries, four years and years are split off in turn. -/
def yearAndDay (days : Int) : Int × Nat :=
  let ofFourCenturies := (days % 146097).toNat
  let ofCentury := ofFourCenturies % 36524
  let ofFourYears := ofCentury % 1461
  let century := ofFourCenturies / 36524
  let year := ofFourYears / 365
  let past : Int := 400 * (days / 146097) + 100 * century + 4 * (ofCentury / 1461 : Nat) + year
  -- The last day of a leap year is one more than the even split allows for.
  if year = 4 ∨ century = 4 then (past, 365) else (past + 1, ofFourYears % 365)

/-- The days from the first day of year one to the first day of 1970. -/
def epochDays : Int := 719162

/-- `time.gmtime(seconds)`. -/
def gmtime (seconds : Int) : Moment :=
  let date := yearAndDay (seconds / 86400 + epochDays)
  let leap := isLeap date.1
  let month := monthOfDay leap date.2
  let ofDay := (seconds % 86400).toNat
  { year := date.1, month, day := date.2 - daysBeforeMonth leap month + 1
    hour := ofDay / 3600, minute := ofDay % 3600 / 60, second := ofDay % 60 }

/-- The seconds since 1970 of a moment. -/
def secondsOf (moment : Moment) : Int :=
  let dayOfYear := daysBeforeMonth (isLeap moment.year) moment.month + (moment.day - 1)
  (daysBeforeYear moment.year + dayOfYear - epochDays) * 86400 +
    (3600 * moment.hour + 60 * moment.minute + moment.second)

/-! ### Reading the fields back -/

theorem daysBeforeYear_split (cycle : Int) {century fourYears year : Nat} (inCycle : century ≤ 3)
    (inCentury : fourYears ≤ 24) (inFour : year ≤ 3) :
    daysBeforeYear (400 * cycle + 100 * century + 4 * fourYears + year + 1) =
      146097 * cycle + 36524 * century + 1461 * fourYears + 365 * year := by
  unfold daysBeforeYear
  dsimp only
  have byFour : (400 * cycle + 100 * century + 4 * fourYears + year + 1 - 1) / 4 =
      100 * cycle + 25 * century + fourYears := by omega
  have byHundred : (400 * cycle + 100 * century + 4 * fourYears + year + 1 - 1) / 100 =
      4 * cycle + century := by omega
  have byFourHundred : (400 * cycle + 100 * century + 4 * fourYears + year + 1 - 1) / 400 =
      cycle := by omega
  rw [byFour, byHundred, byFourHundred]
  ring

/-- The year and the day of the year of a day say which day it is. -/
theorem daysBeforeYear_yearAndDay (days : Int) :
    daysBeforeYear (yearAndDay days).1 + (yearAndDay days).2 = days := by
  have whole : days = 146097 * (days / 146097) + (days % 146097).toNat := by omega
  have below : (days % 146097).toNat < 146097 := by omega
  unfold yearAndDay
  generalize days / 146097 = cycle at whole ⊢
  generalize (days % 146097).toNat = left at whole below ⊢
  have ofCycle := Nat.div_add_mod left 36524
  have inCentury := Nat.mod_lt left (by decide : 36524 > 0)
  have centuries : left / 36524 ≤ 4 := by omega
  dsimp only
  generalize left / 36524 = century at ofCycle centuries ⊢
  generalize left % 36524 = ofCentury at ofCycle inCentury ⊢
  have ofHundred := Nat.div_add_mod ofCentury 1461
  have inFour := Nat.mod_lt ofCentury (by decide : 1461 > 0)
  have fours : ofCentury / 1461 ≤ 24 := by omega
  generalize ofCentury / 1461 = fourYears at ofHundred fours ⊢
  generalize ofCentury % 1461 = ofFour at ofHundred inFour ⊢
  have ofYears := Nat.div_add_mod ofFour 365
  have inYear := Nat.mod_lt ofFour (by decide : 365 > 0)
  have years : ofFour / 365 ≤ 4 := by omega
  generalize ofFour / 365 = year at ofYears years ⊢
  generalize ofFour % 365 = day at ofYears inYear ⊢
  split
  next last =>
    dsimp only
    rcases last with rfl | rfl
    · -- The fifth year of four is the last day of the fourth.
      have split := daysBeforeYear_split cycle (by omega : century ≤ 3) fours (by decide : 3 ≤ 3)
      have same : 400 * cycle + 100 * century + 4 * fourYears + (4 : Nat) =
          400 * cycle + 100 * century + 4 * fourYears + (3 : Nat) + 1 := by omega
      rw [same, split]
      omega
    · -- The fifth century of four is the last day of the fourth.
      have split := daysBeforeYear_split cycle (by decide : 3 ≤ 3) (by decide : 24 ≤ 24)
        (by decide : 3 ≤ 3)
      have same : 400 * cycle + 100 * (4 : Nat) + 4 * fourYears + year =
          400 * cycle + 100 * (3 : Nat) + 4 * (24 : Nat) + (3 : Nat) + 1 := by omega
      rw [same, split]
      omega
  next notLast =>
    have split := daysBeforeYear_split cycle (by omega : century ≤ 3) fours (by omega : year ≤ 3)
    dsimp only
    omega

theorem yearAndDay_lt (days : Int) : (yearAndDay days).2 < 366 := by
  unfold yearAndDay
  dsimp only
  split
  · exact (by decide : 365 < 366)
  · exact Nat.lt_trans (Nat.mod_lt _ (by decide)) (by decide : 365 < 366)

theorem daysBeforeMonth_monthOfDay (leap : Bool) {day : Nat} (inYear : day < 366) :
    daysBeforeMonth leap (monthOfDay leap day) + (day - daysBeforeMonth leap (monthOfDay leap day)) =
      day ∧ day - daysBeforeMonth leap (monthOfDay leap day) < 99 ∧ monthOfDay leap day < 99 := by
  have all : ∀ leap : Bool, ∀ day : Fin 366,
      daysBeforeMonth leap (monthOfDay leap day) ≤ day ∧
        day - daysBeforeMonth leap (monthOfDay leap day) < 99 ∧ monthOfDay leap day < 99 := by
    decide +kernel
  obtain ⟨started, short, month⟩ := all leap ⟨day, inYear⟩
  exact ⟨Nat.add_sub_cancel' started, short, month⟩

/-- The fields of a moment say which second it is. -/
theorem secondsOf_gmtime (seconds : Int) : secondsOf (gmtime seconds) = seconds := by
  have date := daysBeforeYear_yearAndDay (seconds / 86400 + epochDays)
  obtain ⟨day, -, -⟩ := daysBeforeMonth_monthOfDay
    (isLeap (yearAndDay (seconds / 86400 + epochDays)).1)
    (yearAndDay_lt (seconds / 86400 + epochDays))
  unfold secondsOf gmtime
  dsimp only
  rw [Nat.add_sub_cancel, day, date]
  omega

/-- The fields of a moment have two digits, the year apart. -/
theorem gmtime_fields (seconds : Int) :
    (gmtime seconds).month < 100 ∧ (gmtime seconds).day < 100 ∧ (gmtime seconds).hour < 100 ∧
      (gmtime seconds).minute < 100 ∧ (gmtime seconds).second < 100 := by
  obtain ⟨-, day, month⟩ := daysBeforeMonth_monthOfDay
    (isLeap (yearAndDay (seconds / 86400 + epochDays)).1)
    (yearAndDay_lt (seconds / 86400 + epochDays))
  unfold gmtime
  dsimp only
  omega

example : gmtime 1777213997 = ⟨2026, 4, 26, 14, 33, 17⟩ := by decide

end TradingStrands.Foundation
