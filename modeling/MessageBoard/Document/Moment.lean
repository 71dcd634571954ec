import MessageBoard.Document.Lexis
import MessageBoard.Calendar.Month
import MessageBoard.Number.Whole

/-!
# Dates and times

A moment is a date, a time of day, or a date and a time of day with or without an offset from
universal time.  Only possible dates and times are accepted.  Nothing reads the moment itself, so a
reader answers with what remains after it.
-/

namespace MessageBoard
namespace Document

def fixedDigits? : Nat → List Char → Option (Nat × List Char)
  | 0, cs => some (0, cs)
  | count + 1, c :: cs =>
      if c.isDigit then do
        let (value, rest) ← fixedDigits? count cs
        some ((c.toNat - '0'.toNat) * powerOfTen count + value, rest)
      else none
  | _ + 1, [] => none

/-- Two digits for a number that is at most `limit`. -/
def upTo? (limit : Nat) (cs : List Char) : Option (List Char) := do
  let (value, rest) ← fixedDigits? 2 cs
  if value ≤ limit then some rest else none

def skipDate? (cs : List Char) : Option (List Char) := do
  let (year, cs) ← fixedDigits? 4 cs
  let '-' :: cs := cs | none
  let (month, cs) ← fixedDigits? 2 cs
  let '-' :: cs := cs | none
  let (day, rest) ← fixedDigits? 2 cs
  if 1 ≤ month ∧ month ≤ 12 ∧ 1 ≤ day ∧ day ≤ Calendar.daysInMonth year month then some rest else none

/-- Passes a point and the digits after it, if a digit follows the point. -/
def skipPlaces : List Char → List Char
  | '.' :: c :: cs => if c.isDigit then cs.dropWhile Char.isDigit else '.' :: c :: cs
  | cs => cs

/-- Passes a time of day to the second; a minute may have a leap second. -/
def skipTime? (cs : List Char) : Option (List Char) := do
  let ':' :: cs ← upTo? 23 cs | none
  let ':' :: cs ← upTo? 59 cs | none
  let cs ← upTo? 60 cs
  some (skipPlaces cs)

/-- Passes an offset from universal time, if one starts here; its minutes may not be missing. -/
def skipOffset? : List Char → Option (List Char)
  | c :: cs =>
      if c = 'Z' || c = 'z' then some cs
      else if c = '+' || c = '-' then do
        let ':' :: cs ← upTo? 23 cs | none
        upTo? 59 cs
      else some (c :: cs)
  | [] => some []

/-- A date may stand alone: what separates it from a time counts only if a time follows. -/
def moment? (cs : List Char) : Option (List Char) :=
  match skipDate? cs with
  | none => skipTime? cs
  | some (c :: rest) =>
      if c = 'T' || c = 't' || c = ' ' then
        match skipTime? rest with
        | some rest => skipOffset? rest
        | none => some (c :: rest)
      else some (c :: rest)
  | some [] => some []

end Document
end MessageBoard
