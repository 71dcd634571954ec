import MessageBoard.Number.Whole

/-!
# Binary64 numbers

A binary64 number is a sign, a significand below 2^53 and a power of two from -1074 to 971, or an
infinity, or not a number.  A decimal numeral denotes the number nearest to it; of two equally near
ones it denotes the one with the even significand.  All computation is exact, in natural numbers.
-/

namespace MessageBoard

inductive Binary64 where
  | finite (negative : Bool) (significand : Nat) (exponent : Int)
  | infinite (negative : Bool)
  | notANumber
  deriving DecidableEq, Inhabited

namespace Binary64

def leastExponent : Int := -1074

def greatestExponent : Int := 971

/-- The significands of normal numbers run from here to twice this, exclusively. -/
def hiddenBit : Nat := 1 <<< 52

/-!
# Rounding
-/

/-- The quotient to the nearest natural number, a half to the even neighbour. -/
def roundQuotient (num den : Nat) : Nat :=
  let quotient := num / den
  let remainder := num % den
  if 2 * remainder < den then quotient
  else if den < 2 * remainder then quotient + 1
  else quotient + quotient % 2

/-- The greatest `k` with `2 ^ k ≤ num / den`, for positive arguments. -/
def floorLog (num den : Nat) : Int :=
  let k : Int := (num.log2 : Int) - den.log2
  let reaches := if 0 ≤ k then den <<< k.toNat ≤ num else den ≤ num <<< (-k).toNat
  if reaches then k else k - 1

def ofQuotient (negative : Bool) (num den : Nat) : Binary64 :=
  let exponent := max (floorLog num den - 52) leastExponent
  let significand :=
    if 0 ≤ exponent then roundQuotient num (den <<< exponent.toNat)
    else roundQuotient (num <<< (-exponent).toNat) den
  let (significand, exponent) :=
    if significand = 2 * hiddenBit then (hiddenBit, exponent + 1) else (significand, exponent)
  if greatestExponent < exponent then .infinite negative
  else .finite negative significand exponent

/--
The number nearest to `digits * 10 ^ power`.  Beyond 10^310 every value is infinite and below
10^-330 every value is zero, so such powers are not computed.
-/
def ofDecimal (negative : Bool) (digits : Nat) (power : Int) : Binary64 :=
  let size : Int := (Nat.toDigits 10 digits).length + power
  if digits = 0 ∨ size < -330 then .finite negative 0 leastExponent
  else if 310 < size then .infinite negative
  else if 0 ≤ power then ofQuotient negative (digits * powerOfTen power.toNat) 1
  else ofQuotient negative digits (powerOfTen (-power).toNat)

end Binary64

end MessageBoard
