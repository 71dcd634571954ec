import MessageBoard.Pattern.Item

/-!
# Reading time patterns

In a pattern a percent sign begins a specifier and every other character stands for itself.  A
specifier is one letter, with padding, colons or a number of places in front of some letters.  The
reader takes one character at a time and knows from its phase what the specifier has had so far.
-/

namespace MessageBoard
namespace Pattern

/-!
# Letters
-/

/-- The letters for numbers, each with the padding that it has by itself. -/
def quantityOf? (letter : Char) : Option (Quantity × Padding) :=
  match letter with
  | 'Y' => some (.year, .zero)
  | 'C' => some (.century, .zero)
  | 'y' => some (.yearOfCentury, .zero)
  | 'G' => some (.weekYear, .zero)
  | 'g' => some (.weekYearOfCentury, .zero)
  | 'q' => some (.quarter, .none)
  | 'm' => some (.month, .zero)
  | 'd' => some (.day, .zero)
  | 'e' => some (.day, .space)
  | 'w' => some (.weekdayFromSunday, .none)
  | 'u' => some (.weekdayFromMonday, .none)
  | 'U' => some (.weekFromSunday, .zero)
  | 'W' => some (.weekFromMonday, .zero)
  | 'V' => some (.weekNumber, .zero)
  | 'j' => some (.dayOfYear, .zero)
  | 'H' => some (.hour, .zero)
  | 'k' => some (.hour, .space)
  | 'I' => some (.hourOfHalfDay, .zero)
  | 'l' => some (.hourOfHalfDay, .space)
  | 'M' => some (.minute, .zero)
  | 'S' => some (.second, .zero)
  | 'f' => some (.nanosecond, .zero)
  | 's' => some (.timestamp, .none)
  | _ => none

def twoPlaces (quantity : Quantity) : Item := .number quantity .zero

def clock : List Item :=
  [twoPlaces .hour, .character ':', twoPlaces .minute, .character ':', twoPlaces .second]

def monthDayYear : List Item :=
  [twoPlaces .month, .character '/', twoPlaces .day, .character '/', twoPlaces .yearOfCentury]

def yearMonthDay : List Item :=
  [.number .year .zero, .character '-', twoPlaces .month, .character '-', twoPlaces .day]

/-- The letters for names, zones, fixed characters and combinations. -/
def combinationOf? (letter : Char) : Option (List Item) :=
  match letter with
  | 'b' => some [.monthName false]
  | 'h' => some [.monthName false]
  | 'B' => some [.monthName true]
  | 'a' => some [.weekdayName false]
  | 'A' => some [.weekdayName true]
  | 'P' => some [.halfDay false]
  | 'p' => some [.halfDay true]
  | 'z' => some [.offset (.minutes false)]
  | 'Z' => some [.offset .exact]
  | 'D' => some monthDayYear
  | 'x' => some monthDayYear
  | 'F' => some yearMonthDay
  | 'v' =>
      some [.number .day .space, .character '-', .monthName false, .character '-',
        .number .year .zero]
  | 'R' => some [twoPlaces .hour, .character ':', twoPlaces .minute]
  | 'T' => some clock
  | 'X' => some clock
  | 'r' =>
      some [twoPlaces .hourOfHalfDay, .character ':', twoPlaces .minute, .character ':',
        twoPlaces .second, .character ' ', .halfDay true]
  | 'c' =>
      some ([.weekdayName false, .character ' ', .monthName false, .character ' ',
        .number .day .space, .character ' '] ++ clock ++ [.character ' ', .number .year .zero])
  | '+' =>
      some (yearMonthDay ++ [.character 'T'] ++ clock
        ++ [.fullFraction, .offset (.minutes true)])
  | 'n' => some [.character '\n']
  | 't' => some [.character '\t']
  | '%' => some [.character '%']
  | _ => none

def paddingOf? (c : Char) : Option Padding :=
  match c with
  | '-' => some .none
  | '_' => some .space
  | '0' => some .zero
  | _ => none

def placesOf? (c : Char) : Option Nat :=
  match c with
  | '3' => some 3
  | '6' => some 6
  | '9' => some 9
  | _ => none

/-!
# The reader
-/

/-- What a specifier has had so far. -/
inductive Phase where
  | outside
  | percent
  | padded (padding : Padding)
  | colons (count : Nat)
  | point
  | places (point : Bool) (count : Nat)
  deriving DecidableEq

namespace Phase

/-- The items that a character completes and the phase after it. -/
def step (phase : Phase) (c : Char) : Option (List Item × Phase) :=
  match phase with
  | outside => if c = '%' then some ([], percent) else some ([.character c], outside)
  | percent =>
      match quantityOf? c, combinationOf? c, paddingOf? c, placesOf? c with
      | some (quantity, padding), _, _, _ => some ([.number quantity padding], outside)
      | _, some items, _, _ => some (items, outside)
      | _, _, some padding, _ => some ([], padded padding)
      | _, _, _, some count => some ([], places false count)
      | _, _, _, _ =>
          if c = ':' then some ([], colons 1) else if c = '.' then some ([], point) else none
  | padded padding =>
      (quantityOf? c).map fun (quantity, _) => ([.number quantity padding], outside)
  | colons count =>
      if c = ':' then if count < 3 then some ([], colons (count + 1)) else none
      else if c = 'z' then
        match count with
        | 1 => some ([.offset (.minutes true)], outside)
        | 2 => some ([.offset .seconds], outside)
        | _ => some ([.offset .hours], outside)
      else none
  | point =>
      if c = 'f' then some ([.fullFraction], outside)
      else (placesOf? c).map fun count => ([], places true count)
  | places hasPoint count =>
      if c = 'f' then some ([.fraction hasPoint count], outside) else none

end Phase

/-- The items of a pattern, read from a phase on; no specifier may be left unfinished. -/
def itemsFrom? : Phase → List Char → Option (List Item)
  | phase, [] => if phase = .outside then some [] else none
  | phase, c :: cs =>
      match phase.step c with
      | none => none
      | some (items, next) => (itemsFrom? next cs).map (items ++ ·)

def items? (pattern : String) : Option (List Item) := itemsFrom? .outside pattern.toList

/-- A local time in the form of a pattern, if the pattern and the instant allow it. -/
def format? (pattern : String) (t : Calendar.LocalTime) : Option String :=
  match items? pattern, t.instant.inRange with
  | some items, true => some (String.ofList (writeItems t items))
  | _, _ => none

end Pattern
end MessageBoard
