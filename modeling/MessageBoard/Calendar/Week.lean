import MessageBoard.Calendar.Year

/-!
# Weeks

Weekdays run from Monday, which is 0, and 1970-01-01 is a Thursday.  A week with Monday first
belongs to the year that has its Thursday, and is numbered from 1 in it.
-/

namespace MessageBoard
namespace Calendar

/-- Days since Monday. -/
def weekday (day : Int) : Nat := ((day + 3) % 7).toNat

/-- Days since Sunday. -/
def weekdayFromSunday (day : Int) : Nat := ((day + 4) % 7).toNat

/-- The Thursday of the week of a day. -/
def thursday (day : Int) : Int := day - weekday day + 3

def weekYear (day : Int) : Int := yearOf (thursday day)

def weekNumber (day : Int) : Nat := dayOfYear (thursday day) / 7 + 1

/-- The number of Sundays in the year up to a day, or of the days that `since` counts from. -/
def weeksBegun (since : Int → Nat) (day : Int) : Nat := (dayOfYear day + 7 - since day) / 7

def weekdayNames : List String :=
  ["Monday", "Tuesday", "Wednesday", "Thursday", "Friday", "Saturday", "Sunday"]

end Calendar
end MessageBoard
