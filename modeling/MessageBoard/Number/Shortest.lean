import MessageBoard.Number.Binary64

/-!
# Shortest decimals

The shortest decimal of a binary64 number has the fewest digits among those that denote the number,
and lies nearest to it among these.  It is written positionally, never with an exponent, and always
with a fraction.
-/

namespace MessageBoard
namespace Binary64

/-!
# Reading back

A decimal denotes a number when it lies between the midpoints to the number's two neighbours; the
midpoints themselves count for an even significand.  Distances are measured in quarters of the
number's last place, so that both midpoints are whole: the lower neighbour is only half a place
away from a power of two.
-/

/-- Compares `c * 10 ^ power` with `quarters * 2 ^ (exponent - 2)`. -/
def compareDecimal (c : Nat) (power : Int) (quarters : Nat) (exponent : Int) : Ordering :=
  let twos := exponent - 2
  let left := (c * powerOfTen power.toNat) <<< (-twos).toNat
  let right := (quarters <<< twos.toNat) * powerOfTen (-power).toNat
  compare left right

def lowerQuarters (significand : Nat) (exponent : Int) : Nat :=
  if significand = hiddenBit ∧ leastExponent < exponent then 4 * significand - 1
  else 4 * significand - 2

def upperQuarters (significand : Nat) : Nat := 4 * significand + 2

def denotes (significand : Nat) (exponent : Int) (c : Nat) (power : Int) : Bool :=
  let lower := compareDecimal c power (lowerQuarters significand exponent) exponent
  let upper := compareDecimal c power (upperQuarters significand) exponent
  (lower == .gt || (lower == .eq && significand % 2 == 0)) &&
    (upper == .lt || (upper == .eq && significand % 2 == 0))

/-!
# The search

On the grid of multiples of a power of ten, only the two neighbours of the number need be tested.
The grids are tried from the coarsest on.
-/

/-- The greatest multiple of `10 ^ power` that is not above the number, divided by that power. -/
def floorOnGrid (significand : Nat) (exponent power : Int) : Nat :=
  (significand <<< exponent.toNat) * powerOfTen (-power).toNat /
    (powerOfTen power.toNat <<< (-exponent).toNat)

/-- The nearer of `c` and `c + 1` on the grid; of two equally near ones the greater. -/
def nearerOnGrid (significand : Nat) (exponent : Int) (c : Nat) (power : Int) : Nat :=
  let middle := 2 * c + 1
  match compareDecimal middle power (8 * significand) exponent with
  | .gt => c
  | _ => c + 1

def bestOnGrid? (significand : Nat) (exponent power : Int) : Option Nat :=
  let c := floorOnGrid significand exponent power
  match denotes significand exponent c power,
      denotes significand exponent (c + 1) power with
  | true, true => some (nearerOnGrid significand exponent c power)
  | true, false => some c
  | false, true => some (c + 1)
  | false, false => none

/-- Tries the grids from `10 ^ (steps - 326)` down to `10 ^ (-325)`. -/
def shortestFrom (significand : Nat) (exponent : Int) : Nat → Nat × Int
  | 0 => (floorOnGrid significand exponent (-326), -326)
  | steps + 1 =>
      let power : Int := (steps : Int) - 325
      match bestOnGrid? significand exponent power with
      | some c => (c, power)
      | none => shortestFrom significand exponent steps

def shortest (significand : Nat) (exponent : Int) : Nat × Int :=
  shortestFrom significand exponent 636

/-!
# Positional notation
-/

/-- Writes `digits * 10 ^ power` with a point and at least one digit on either side of it. -/
def positional (digits : Nat) (power : Int) : List Char :=
  if 0 ≤ power then
    decimal digits ++ List.replicate power.toNat '0' ++ ['.', '0']
  else
    let places := (-power).toNat
    let written := decimal digits
    let padded := List.replicate (places + 1 - written.length) '0' ++ written
    padded.take (padded.length - places) ++ '.' :: padded.drop (padded.length - places)

def signed (negative : Bool) (cs : List Char) : List Char :=
  if negative then '-' :: cs else cs

def display : Binary64 → String
  | .finite negative significand exponent =>
      if significand = 0 then String.ofList (signed negative ['0', '.', '0'])
      else
        let (digits, power) := shortest significand exponent
        String.ofList (signed negative (positional digits power))
  | .infinite negative => String.ofList (signed negative ['i', 'n', 'f'])
  | .notANumber => "NaN"

end Binary64
end MessageBoard
