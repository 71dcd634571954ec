import MessageBoard.Calendar.LocalTime

/-!
# Dates by counting

Here the calendar is told by its rules alone: which years are leap years and how long the months
are.  The number of a date counts the days from 1970-01-01 on, year by year and month by month.
The date of a day, which is found from a guess at the year, is the only date with that number, and
from one day to the next it goes on to the next day of the month, the next month or the next year.
-/

namespace MessageBoard
namespace Calendar

/-!
# Years
-/

def yearLength (year : Int) : Nat := if isLeapYear year then 366 else 365

theorem yearLength_eq (year : Int) : yearLength year = 365 ∨ yearLength year = 366 := by
  unfold yearLength
  split
  · exact Or.inr rfl
  · exact Or.inl rfl

/-- The days of so many years, of which `year` is the first. -/
def daysOfYears (year : Int) : Nat → Nat
  | 0 => 0
  | count + 1 => yearLength year + daysOfYears (year + 1) count

/-- The number of the first day of a year: of the two spans at least one is empty. -/
def newYear (year : Int) : Int :=
  daysOfYears 1970 (year - 1970).toNat - daysOfYears year (1970 - year).toNat

theorem yearStart_add_yearLength (year : Int) :
    yearStart year + yearLength year = yearStart (year + 1) := by
  rw [yearStart_succ, yearLength]
  split <;> rfl

theorem yearStart_add_daysOfYears (year : Int) (count : Nat) :
    yearStart year + daysOfYears year count = yearStart (year + count) := by
  induction count generalizing year with
  | zero => simp [daysOfYears]
  | succ count ih =>
      have hlater := ih (year + 1)
      have hfirst := yearStart_add_yearLength year
      have hyear : year + 1 + (count : Int) = year + (count + 1 : Nat) := by omega
      rw [hyear] at hlater
      rw [daysOfYears]
      omega

theorem newYear_eq_yearStart (year : Int) : newYear year = yearStart year := by
  unfold newYear
  by_cases hlater : 1970 ≤ year
  · have hspan := yearStart_add_daysOfYears 1970 (year - 1970).toNat
    have hyear : (1970 : Int) + (year - 1970).toNat = year := by omega
    have hnone : (1970 - year).toNat = 0 := by omega
    rw [hyear, yearStart_1970] at hspan
    rw [hnone, daysOfYears]
    omega
  · have hspan := yearStart_add_daysOfYears year (1970 - year).toNat
    have hyear : year + (1970 - year).toNat = 1970 := by omega
    have hnone : (year - 1970).toNat = 0 := by omega
    rw [hyear, yearStart_1970] at hspan
    rw [hnone, daysOfYears]
    omega

theorem newYear_succ (year : Int) : newYear (year + 1) = newYear year + yearLength year := by
  rw [newYear_eq_yearStart, newYear_eq_yearStart, yearStart_add_yearLength]

theorem newYear_le_newYear {year later : Int} (h : year ≤ later) :
    newYear year ≤ newYear later := by
  rw [newYear_eq_yearStart, newYear_eq_yearStart]
  unfold yearStart
  omega

theorem newYear_yearOf_le (day : Int) : newYear (yearOf day) ≤ day := by
  rw [newYear_eq_yearStart]
  exact yearStart_yearOf_le day

theorem lt_newYear_yearOf_succ (day : Int) : day < newYear (yearOf day + 1) := by
  rw [newYear_eq_yearStart]
  exact lt_yearStart_yearOf_succ day

theorem newYear_add_dayOfYear (day : Int) : newYear (yearOf day) + dayOfYear day = day := by
  have hle := newYear_yearOf_le day
  rw [newYear_eq_yearStart] at hle ⊢
  unfold dayOfYear
  omega

theorem dayOfYear_lt (day : Int) : dayOfYear day < yearLength (yearOf day) := by
  have hday := newYear_add_dayOfYear day
  have hlt := lt_newYear_yearOf_succ day
  rw [newYear_succ] at hlt
  omega

theorem yearOf_eq {day year : Int} (hle : newYear year ≤ day) (hlt : day < newYear (year + 1)) :
    yearOf day = year := by
  have hstart := newYear_yearOf_le day
  have hend := lt_newYear_yearOf_succ day
  rcases Int.lt_trichotomy (yearOf day) year with hearlier | heq | hlater
  · have hmono := newYear_le_newYear (show yearOf day + 1 ≤ year from hearlier)
    omega
  · exact heq
  · have hmono := newYear_le_newYear (show year + 1 ≤ yearOf day from hlater)
    omega

/-!
# Months
-/

/-- The days of the first `count` of some months. -/
def daysOfMonths : List Nat → Nat → Nat
  | length :: lengths, count + 1 => length + daysOfMonths lengths count
  | _, _ => 0

theorem daysOfMonths_zero (lengths : List Nat) : daysOfMonths lengths 0 = 0 := by
  cases lengths <;> rfl

theorem daysOfMonths_succ (lengths : List Nat) (count : Nat) :
    daysOfMonths lengths (count + 1) = daysOfMonths lengths count + lengths.getD count 0 := by
  induction lengths generalizing count with
  | nil => simp [daysOfMonths]
  | cons length lengths ih =>
      cases count with
      | zero => simp [daysOfMonths]
      | succ count =>
          rw [daysOfMonths, ih, daysOfMonths, Nat.add_assoc]
          rfl

theorem daysOfMonths_le (lengths : List Nat) {count more : Nat} (h : count ≤ more) :
    daysOfMonths lengths count ≤ daysOfMonths lengths more := by
  induction h with
  | refl => exact Nat.le_refl _
  | step _ ih =>
      rw [daysOfMonths_succ]
      omega

theorem daysInMonth_mem (year : Int) {before : Nat} (h : before < 12) :
    1 ≤ daysInMonth year (before + 1) ∧ daysInMonth year (before + 1) ≤ 31 := by
  have hall : ∀ leap, ∀ before < 12, 1 ≤ (monthLengths leap).getD before 0 ∧
      (monthLengths leap).getD before 0 ≤ 31 := by decide
  exact hall (isLeapYear year) before h

theorem daysOfMonths_monthLengths (year : Int) :
    daysOfMonths (monthLengths (isLeapYear year)) 12 = yearLength year := by
  unfold yearLength
  cases isLeapYear year <;> rfl

theorem exists_month (lengths : List Nat) {days : Nat}
    (h : days < daysOfMonths lengths lengths.length) :
    ∃ before day, before < lengths.length ∧ day < lengths.getD before 0 ∧
      daysOfMonths lengths before + day = days := by
  induction lengths generalizing days with
  | nil => simp [daysOfMonths] at h
  | cons length lengths ih =>
      by_cases hfirst : days < length
      · exact ⟨0, days, Nat.zero_lt_succ _, hfirst, by simp [daysOfMonths]⟩
      · rw [List.length_cons, daysOfMonths] at h
        have hrest : days - length < daysOfMonths lengths lengths.length := by omega
        rcases ih hrest with ⟨before, day, hbefore, hday, hdays⟩
        refine ⟨before + 1, day, Nat.succ_lt_succ hbefore, hday, ?_⟩
        rw [daysOfMonths]
        omega

theorem splitMonths_daysOfMonths {lengths : List Nat} {before day : Nat}
    (hday : day < lengths.getD before 0) (month : Nat) :
    splitMonths month lengths (daysOfMonths lengths before + day) = (month + before, day + 1) := by
  induction lengths generalizing before month with
  | nil => simp at hday
  | cons length lengths ih =>
      cases before with
      | zero =>
          have hfirst : day < length := hday
          simp [splitMonths, daysOfMonths, hfirst]
      | succ before =>
          have hlater : ¬ length + daysOfMonths lengths before + day < length := by omega
          have hrest : length + daysOfMonths lengths before + day - length =
              daysOfMonths lengths before + day := by omega
          rw [splitMonths, daysOfMonths, if_neg hlater, hrest, ih hday]
          simp only [Prod.mk.injEq, and_true]
          omega

/-!
# Dates
-/

namespace Date

structure IsValid (date : Date) : Prop where
  one_le_month : 1 ≤ date.month
  month_le : date.month ≤ 12
  one_le_day : 1 ≤ date.day
  day_le : date.day ≤ daysInMonth date.year date.month

def daysBefore (date : Date) : Nat :=
  daysOfMonths (monthLengths (isLeapYear date.year)) (date.month - 1) + (date.day - 1)

def number (date : Date) : Int := newYear date.year + date.daysBefore

def next (date : Date) : Date :=
  if date.day < daysInMonth date.year date.month then { date with day := date.day + 1 }
  else if date.month < 12 then ⟨date.year, date.month + 1, 1⟩
  else ⟨date.year + 1, 1, 1⟩

variable {date : Date}

theorem IsValid.exists_eq (h : date.IsValid) :
    ∃ year before day, before < 12 ∧ day < (monthLengths (isLeapYear year)).getD before 0 ∧
      date = ⟨year, before + 1, day + 1⟩ := by
  rcases date with ⟨year, month, day⟩
  rcases h with ⟨hmonth, hmonth', hday, hday'⟩
  cases month with
  | zero => exact absurd hmonth (Nat.not_succ_le_zero 0)
  | succ before =>
      cases day with
      | zero => exact absurd hday (Nat.not_succ_le_zero 0)
      | succ day => exact ⟨year, before, day, hmonth', hday', rfl⟩

theorem IsValid.day_le_31 (h : date.IsValid) : date.day ≤ 31 := by
  rcases h.exists_eq with ⟨year, before, day, hbefore, hday, rfl⟩
  exact Nat.le_trans hday (daysInMonth_mem year hbefore).2

theorem IsValid.daysBefore_lt (h : date.IsValid) : date.daysBefore < yearLength date.year := by
  rcases h.exists_eq with ⟨year, before, day, hbefore, hday, rfl⟩
  have hmonths := daysOfMonths_le (monthLengths (isLeapYear year))
    (show before + 1 ≤ 12 from hbefore)
  rw [daysOfMonths_succ, daysOfMonths_monthLengths] at hmonths
  show daysOfMonths (monthLengths (isLeapYear year)) before + day < yearLength year
  omega

theorem number_mk (year : Int) (before day : Nat) :
    number ⟨year, before + 1, day + 1⟩ =
      newYear year + daysOfMonths (monthLengths (isLeapYear year)) before + day := by
  rw [Int.add_assoc]
  rfl

theorem number_next (h : date.IsValid) : date.next.number = date.number + 1 := by
  rcases h.exists_eq with ⟨year, before, day, hbefore, hday, rfl⟩
  unfold next
  split
  · show number ⟨year, before + 1, day + 1 + 1⟩ = _
    rw [number_mk, number_mk]
    omega
  · rename_i hlast
    have hday' : day + 1 = (monthLengths (isLeapYear year)).getD before 0 :=
      Nat.le_antisymm hday (Nat.le_of_not_lt hlast)
    split
    · show number ⟨year, before + 1 + 1, 0 + 1⟩ = _
      rw [number_mk, number_mk, daysOfMonths_succ]
      omega
    · rename_i hdecember
      have hle : 12 ≤ before + 1 := Nat.le_of_not_lt hdecember
      have hbefore' : before = 11 := by omega
      subst hbefore'
      show number ⟨year + 1, 0 + 1, 0 + 1⟩ = _
      rw [number_mk, number_mk, newYear_succ, ← daysOfMonths_monthLengths, daysOfMonths_zero,
        daysOfMonths_succ]
      omega

theorem IsValid.next (h : date.IsValid) : date.next.IsValid := by
  rcases h with ⟨hmonth, hmonth', hday, -⟩
  unfold Date.next
  split
  · rename_i hlt
    exact ⟨hmonth, hmonth', Nat.le_add_left 1 _, hlt⟩
  · split
    · rename_i hlt
      exact ⟨Nat.le_add_left 1 _, hlt, Nat.le_refl 1, (daysInMonth_mem _ hlt).1⟩
    · have hjanuary := (daysInMonth_mem (date.year + 1) (show 0 < 12 by decide)).1
      exact ⟨Nat.le_refl 1, Nat.le_add_left 1 11, Nat.le_refl 1, hjanuary⟩

end Date

theorem dateOf_of_splitMonths {day : Int} {month dayOfMonth : Nat}
    (h : splitMonths 1 (monthLengths (isLeapYear (yearOf day))) (dayOfYear day) =
      (month, dayOfMonth)) :
    dateOf day = ⟨yearOf day, month, dayOfMonth⟩ := by
  simp only [dateOf, h]

theorem dateOf_number {date : Date} (h : date.IsValid) : dateOf date.number = date := by
  have hlt := h.daysBefore_lt
  have hyear : yearOf date.number = date.year := by
    apply yearOf_eq
    · unfold Date.number
      omega
    · rw [newYear_succ]
      unfold Date.number
      omega
  have hdays : dayOfYear date.number = date.daysBefore := by
    have hday := newYear_add_dayOfYear date.number
    rw [hyear] at hday
    unfold Date.number at hday ⊢
    omega
  have hsplit : splitMonths 1 (monthLengths (isLeapYear (yearOf date.number)))
      (dayOfYear date.number) = (date.month, date.day) := by
    rw [hyear, hdays]
    rcases h.exists_eq with ⟨year, before, day, -, hday, rfl⟩
    have hmonth := splitMonths_daysOfMonths hday 1
    rwa [Nat.add_comm 1 before] at hmonth
  rw [dateOf_of_splitMonths hsplit, hyear]

theorem exists_date (day : Int) : ∃ date : Date, date.IsValid ∧ date.number = day := by
  have hlt := dayOfYear_lt day
  rw [← daysOfMonths_monthLengths] at hlt
  rcases exists_month (monthLengths (isLeapYear (yearOf day))) hlt with
    ⟨before, dayBefore, hbefore, hday, hdays⟩
  refine ⟨⟨yearOf day, before + 1, dayBefore + 1⟩,
    ⟨Nat.le_add_left 1 before, hbefore, Nat.le_add_left 1 dayBefore, hday⟩, ?_⟩
  have hnumber := newYear_add_dayOfYear day
  rw [Date.number_mk]
  omega

theorem isValid_dateOf (day : Int) : (dateOf day).IsValid := by
  rcases exists_date day with ⟨date, hvalid, rfl⟩
  rwa [dateOf_number hvalid]

theorem number_dateOf (day : Int) : (dateOf day).number = day := by
  rcases exists_date day with ⟨date, hvalid, rfl⟩
  rw [dateOf_number hvalid]

/-- From day to day the dates go through the calendar one by one. -/
theorem dateOf_succ (day : Int) : dateOf (day + 1) = (dateOf day).next := by
  have hvalid := isValid_dateOf day
  have hnumber := Date.number_next hvalid
  rw [number_dateOf] at hnumber
  rw [← hnumber, dateOf_number hvalid.next]

end Calendar
end MessageBoard
