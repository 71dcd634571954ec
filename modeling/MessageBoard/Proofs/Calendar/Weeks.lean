import MessageBoard.Proofs.Calendar.Dates

/-!
# Weeks by counting

The days of the week follow each other from Thursday, 1970-01-01, on and back.  The first week of a
year is the one, from Monday to Sunday, that has the year's first Thursday.  Every day is named by
the year of its week, the number of the week and the day of the week.
-/

namespace MessageBoard
namespace Calendar

/-!
# Days of the week

They are numbered from Monday, which is 1, to Sunday, which is 7.
-/

def weekdayAfter : Nat → Nat
  | 0 => 4
  | days + 1 => if weekdayAfter days = 7 then 1 else weekdayAfter days + 1

def weekdayBefore : Nat → Nat
  | 0 => 4
  | days + 1 => if weekdayBefore days = 1 then 7 else weekdayBefore days - 1

/-- The day of the week, counted from the Thursday that is day 0. -/
def weekdayByCount : Int → Nat
  | .ofNat days => weekdayAfter days
  | .negSucc days => weekdayBefore (days + 1)

theorem weekdayAfter_eq (days : Nat) : weekdayAfter days = (days + 3) % 7 + 1 := by
  induction days with
  | zero => rfl
  | succ days ih =>
      rw [weekdayAfter, ih]
      split <;> omega

theorem weekdayBefore_eq (days : Nat) : (weekdayBefore days : Int) = (3 - days) % 7 + 1 := by
  induction days with
  | zero => rfl
  | succ days ih =>
      rw [weekdayBefore]
      split <;> omega

theorem weekday_add_one (day : Int) : weekday day + 1 = weekdayByCount day := by
  unfold weekday
  cases day with
  | ofNat days =>
      rw [weekdayByCount, weekdayAfter_eq, Int.ofNat_eq_natCast]
      omega
  | negSucc days =>
      have hcount := weekdayBefore_eq (days + 1)
      rw [weekdayByCount]
      omega

theorem weekdayFromSunday_eq (day : Int) : weekdayFromSunday day = weekdayByCount day % 7 := by
  rw [← weekday_add_one]
  unfold weekday weekdayFromSunday
  omega

theorem weekdayByCount_mem (day : Int) : 1 ≤ weekdayByCount day ∧ weekdayByCount day ≤ 7 := by
  rw [← weekday_add_one]
  unfold weekday
  omega

theorem weekdayByCount_eq_iff (day other : Int) :
    weekdayByCount day = weekdayByCount other ↔ (day - other) % 7 = 0 := by
  rw [← weekday_add_one, ← weekday_add_one]
  unfold weekday
  omega

theorem weekdayByCount_thursday (day : Int) : weekdayByCount (thursday day) = 4 := by
  rw [← weekday_add_one]
  unfold thursday weekday
  omega

theorem thursday_eq (day : Int) : thursday day = day - weekdayByCount day + 4 := by
  rw [← weekday_add_one]
  unfold thursday
  omega

/-!
# Weeks of a year
-/

/-- The first day of the year that is a Thursday. -/
def firstThursday (year : Int) : Int :=
  newYear year + (11 - weekdayByCount (newYear year)) % 7

/-- The weeks from the first of a year to the first of the next. -/
def weeksOf (year : Int) : Int := (firstThursday (year + 1) - firstThursday year) / 7

/-- The weeks of a year are numbered from 1 and begin three days before their Thursdays. -/
structure IsWeekDate (year : Int) (week weekday : Nat) (day : Int) : Prop where
  weekday_mem : 1 ≤ weekday ∧ weekday ≤ 7
  week_mem : 1 ≤ week ∧ week ≤ weeksOf year
  day_eq : day = firstThursday year - 3 + 7 * (week - 1) + (weekday - 1)

theorem firstThursday_mem (year : Int) :
    newYear year ≤ firstThursday year ∧ firstThursday year < newYear year + 7 := by
  unfold firstThursday
  omega

theorem weekdayByCount_firstThursday (year : Int) : weekdayByCount (firstThursday year) = 4 := by
  have hmem := weekdayByCount_mem (newYear year)
  rw [← weekdayByCount_thursday (newYear year), weekdayByCount_eq_iff, thursday_eq]
  unfold firstThursday
  omega

theorem firstThursday_add_weeks {day : Int} (h : weekdayByCount day = 4) :
    firstThursday (yearOf day) + 7 * (dayOfYear day / 7 : Nat) = day := by
  have hday := newYear_add_dayOfYear day
  have hfirst := firstThursday_mem (yearOf day)
  have hweeks := (weekdayByCount_eq_iff day (firstThursday (yearOf day))).mp
    (h.trans (weekdayByCount_firstThursday _).symm)
  omega

theorem seven_mul_weeksOf (year : Int) :
    7 * weeksOf year = firstThursday (year + 1) - firstThursday year := by
  have hweeks := (weekdayByCount_eq_iff (firstThursday (year + 1)) (firstThursday year)).mp
    ((weekdayByCount_firstThursday _).trans (weekdayByCount_firstThursday _).symm)
  unfold weeksOf
  omega

theorem weeksOf_eq (year : Int) : weeksOf year = 52 ∨ weeksOf year = 53 := by
  have hweeks := seven_mul_weeksOf year
  have hthis := firstThursday_mem year
  have hnext := firstThursday_mem (year + 1)
  have hlength := yearLength_eq year
  rw [newYear_succ] at hnext
  omega

theorem isWeekDate (day : Int) :
    IsWeekDate (weekYear day) (weekNumber day) (weekdayByCount day) day := by
  have hthursday := firstThursday_add_weeks (weekdayByCount_thursday day)
  have hday := thursday_eq day
  constructor
  · exact weekdayByCount_mem day
  · refine ⟨Nat.le_add_left 1 _, ?_⟩
    -- The Thursday of the week is earlier than the first one of the next year.
    have hweeks := seven_mul_weeksOf (weekYear day)
    have hend := lt_newYear_yearOf_succ (thursday day)
    have hnext := firstThursday_mem (yearOf (thursday day) + 1)
    unfold weekNumber
    unfold weekYear at hweeks ⊢
    omega
  · unfold weekYear weekNumber
    omega

theorem weekNumber_le (day : Int) : weekNumber day ≤ 53 := by
  have hmem := (isWeekDate day).week_mem
  have hweeks := weeksOf_eq (weekYear day)
  omega

theorem weeksOf_of_weekNumber {day : Int} (h : weekNumber day = 53) :
    weeksOf (weekYear day) = 53 := by
  have hmem := (isWeekDate day).week_mem
  have hweeks := weeksOf_eq (weekYear day)
  omega

end Calendar
end MessageBoard
