import MessageBoard.Pattern.Quantity
import MessageBoard.Pattern.Offset

/-!
# Items of time patterns

A pattern is made of items, each of which shows one thing about a local time: a quantity, a name, a
fraction of the second, the zone, or a fixed character.  A fraction has its first places, the rest
cut off; a full one has a point and as many groups of three places as it needs.
-/

namespace MessageBoard
namespace Pattern

open Calendar

inductive Item where
  | character (c : Char)
  | number (quantity : Quantity) (padding : Padding)
  | monthName (full : Bool)
  | weekdayName (full : Bool)
  | halfDay (capitals : Bool)
  | fraction (point : Bool) (places : Nat)
  | fullFraction
  | offset (style : OffsetStyle)
  deriving DecidableEq

def writeName (names : List String) (index : Nat) (full : Bool) : List Char :=
  let name := (names.getD index "").toList
  if full then name else name.take 3

def writePlaces (nanos places : Nat) : List Char :=
  paddedDecimal places (nanos / powerOfTen (9 - places))

def writeFullFraction (nanos : Nat) : List Char :=
  if nanos = 0 then []
  else if nanos % 1000000 = 0 then '.' :: writePlaces nanos 3
  else if nanos % 1000 = 0 then '.' :: writePlaces nanos 6
  else '.' :: writePlaces nanos 9

namespace Item

def write (t : LocalTime) : Item → List Char
  | character c => [c]
  | number quantity padding => quantity.layout.write padding (quantity.value t)
  | monthName full => writeName monthNames (t.date.month - 1) full
  | weekdayName full => writeName weekdayNames (weekday t.day) full
  | halfDay capitals =>
      match decide (t.hour < 12), capitals with
      | true, false => ['a', 'm']
      | true, true => ['A', 'M']
      | false, false => ['p', 'm']
      | false, true => ['P', 'M']
  | fraction point places =>
      (if point then ['.'] else []) ++ writePlaces t.instant.nanos.val places
  | fullFraction => writeFullFraction t.instant.nanos.val
  | offset style => style.write t.zone

end Item

def writeItems (t : LocalTime) (items : List Item) : List Char :=
  items.flatMap (Item.write t)

theorem writeItems_append (t : LocalTime) (items more : List Item) :
    writeItems t (items ++ more) = writeItems t items ++ writeItems t more := by
  simp [writeItems]

end Pattern
end MessageBoard
