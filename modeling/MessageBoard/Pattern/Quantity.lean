import MessageBoard.Calendar.LocalTime
import MessageBoard.Number.Whole

/-!
# Quantities

A quantity is a number that a local time has: a part of its date, its week or its clock, or its
count of seconds.  How many places it takes belongs to the quantity; what fills the places that its
digits leave free is up to the pattern.
-/

namespace MessageBoard
namespace Pattern

open Calendar

inductive Padding where
  | none
  | space
  | zero
  deriving DecidableEq

inductive Quantity where
  | year
  | century
  | yearOfCentury
  | weekYear
  | weekYearOfCentury
  | quarter
  | month
  | day
  | weekdayFromSunday
  | weekdayFromMonday
  | weekFromSunday
  | weekFromMonday
  | weekNumber
  | dayOfYear
  | hour
  | hourOfHalfDay
  | minute
  | second
  | nanosecond
  | timestamp
  deriving DecidableEq

/-- How the digits of a quantity are laid out. -/
inductive Layout where
  | single
  | pair
  /-- At least so many places, with a minus counted among them. -/
  | wide (width : Nat)
  /-- Four places, or a sign and four places outside the years from 0 to 9999. -/
  | year
  deriving DecidableEq

namespace Quantity

def layout : Quantity → Layout
  | year | weekYear => .year
  | quarter | weekdayFromSunday | weekdayFromMonday => .single
  | dayOfYear => .wide 3
  | nanosecond | timestamp => .wide 9
  | _ => .pair

/-- The number shown; of a century only the last eight bits are. -/
def value (t : LocalTime) : Quantity → Int
  | year => t.date.year
  | century => t.date.year / 100 % 256
  | yearOfCentury => t.date.year % 100
  | weekYear => Calendar.weekYear t.day
  | weekYearOfCentury => Calendar.weekYear t.day % 100
  | quarter => (t.date.month - 1) / 3 + 1
  | month => t.date.month
  | day => t.date.day
  | weekdayFromSunday => Calendar.weekdayFromSunday t.day
  | weekdayFromMonday => weekday t.day + 1
  | weekFromSunday => weeksBegun Calendar.weekdayFromSunday t.day
  | weekFromMonday => weeksBegun weekday t.day
  | weekNumber => Calendar.weekNumber t.day
  | dayOfYear => Calendar.dayOfYear t.day + 1
  | hour => t.hour
  | hourOfHalfDay => (t.hour + 11) % 12 + 1
  | minute => t.minute
  | second => t.second
  | nanosecond => t.instant.nanos.val
  | timestamp => t.instant.seconds

end Quantity

/-- A sign and digits, filled up to a width. -/
def fill (padding : Padding) (width : Nat) (sign digits : List Char) : List Char :=
  let missing := width - (sign.length + digits.length)
  match padding with
  | .none => sign ++ digits
  | .space => List.replicate missing ' ' ++ sign ++ digits
  | .zero => sign ++ List.replicate missing '0' ++ digits

/-- Two places; a tens place above nine goes on with the characters after the digits. -/
def writePair (padding : Padding) (n : Nat) : List Char :=
  let ones := Nat.digitChar (n % 10)
  match n / 10, padding with
  | 0, .none => [ones]
  | 0, .space => [' ', ones]
  | tens, _ => [Char.ofNat ('0'.toNat + tens), ones]

def Layout.write (padding : Padding) (value : Int) : Layout → List Char
  | single => decimal value.natAbs
  | pair => writePair padding value.natAbs
  | wide width => fill padding width (if value < 0 then ['-'] else []) (decimal value.natAbs)
  | year =>
      if 0 ≤ value ∧ value < 10000 then fill padding 4 [] (decimal value.natAbs)
      else fill padding 5 [if value < 0 then '-' else '+'] (decimal value.natAbs)

end Pattern
end MessageBoard
