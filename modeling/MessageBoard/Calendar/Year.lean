/-!
# Years

Days are numbered from 1970-01-01, which is day 0, in the Gregorian calendar continued in both
directions; the year before year 1 is year 0.
-/

namespace MessageBoard
namespace Calendar

/-- Every fourth year, but of the full centuries only every fourth. -/
def isLeapYear (year : Int) : Bool :=
  year % 4 = 0 && (year % 100 ≠ 0 || year % 400 = 0)

def yearStart (year : Int) : Int :=
  365 * (year - 1970) + (year - 1) / 4 - (year - 1) / 100 + (year - 1) / 400 - 477

theorem yearStart_1970 : yearStart 1970 = 0 := by decide

theorem yearStart_succ (year : Int) :
    yearStart (year + 1) = yearStart year + (if isLeapYear year then 366 else 365) := by
  simp only [yearStart, isLeapYear, Bool.and_eq_true, Bool.or_eq_true, decide_eq_true_eq]
  split <;> omega

/-- The year of a day: four hundred years have 146097 days, which is one year off at most. -/
def yearOf (day : Int) : Int :=
  let guess := day * 400 / 146097 + 1970
  if day < yearStart guess then guess - 1
  else if yearStart (guess + 1) ≤ day then guess + 1
  else guess

theorem yearStart_yearOf_le (day : Int) : yearStart (yearOf day) ≤ day := by
  simp only [yearOf]
  split
  · simp only [yearStart] at *
    omega
  · split <;> omega

theorem lt_yearStart_yearOf_succ (day : Int) : day < yearStart (yearOf day + 1) := by
  simp only [yearOf]
  split
  · simp only [Int.sub_add_cancel]
    omega
  · split
    · simp only [yearStart] at *
      omega
    · omega

def dayOfYear (day : Int) : Nat := (day - yearStart (yearOf day)).toNat

end Calendar
end MessageBoard
