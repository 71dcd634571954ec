import MessageBoard.Calendar.Year

/-!
# Months
-/

namespace MessageBoard
namespace Calendar

def monthLengths (leap : Bool) : List Nat :=
  [31, if leap then 29 else 28, 31, 30, 31, 30, 31, 31, 30, 31, 30, 31]

def daysInMonth (year : Int) (month : Nat) : Nat :=
  (monthLengths (isLeapYear year)).getD (month - 1) 0

structure Date where
  year : Int
  month : Nat
  day : Nat
  deriving DecidableEq, Inhabited

/-- The month and the day in it, where `month` has the first of the lengths. -/
def splitMonths (month : Nat) : List Nat → Nat → Nat × Nat
  | [], days => (month, days + 1)
  | length :: lengths, days =>
      if days < length then (month, days + 1)
      else splitMonths (month + 1) lengths (days - length)

def dateOf (day : Int) : Date :=
  let year := yearOf day
  let (month, dayOfMonth) := splitMonths 1 (monthLengths (isLeapYear year)) (dayOfYear day)
  ⟨year, month, dayOfMonth⟩

def monthNames : List String :=
  ["January", "February", "March", "April", "May", "June", "July", "August", "September",
    "October", "November", "December"]

end Calendar
end MessageBoard
