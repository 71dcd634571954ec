import MessageBoard.Document.Lexis
import MessageBoard.Number.Binary64

/-!
# Numerals

Whole numbers are written in decimal with an optional sign, or without a sign in hexadecimal, octal
or binary after `0x`, `0o` or `0b`.  They must fit into 64 bits with a sign.  A decimal number with
a fraction or an exponent, an infinity and "not a number" are floating-point numbers.
-/

namespace MessageBoard
namespace Document

/-!
# Runs of digits

A single underscore may separate two digits.
-/

/-- The digits up to the first character that is neither a digit nor a separator before one. -/
def moreDigits (isDigit : Char → Bool) : List Char → List Char × List Char
  | '_' :: c :: cs =>
      if isDigit c then
        let (digits, rest) := moreDigits isDigit cs
        (c :: digits, rest)
      else ([], '_' :: c :: cs)
  | c :: cs =>
      if isDigit c then
        let (digits, rest) := moreDigits isDigit cs
        (c :: digits, rest)
      else ([], c :: cs)
  | [] => ([], [])

def digits? (isDigit : Char → Bool) : List Char → Option (List Char × List Char)
  | c :: cs =>
      if isDigit c then
        let (digits, rest) := moreDigits isDigit cs
        some (c :: digits, rest)
      else none
  | [] => none

def valueOf (base : Nat) (digits : List Char) : Nat :=
  digits.foldl (fun value c => base * value + (hexDigit? c).getD 0) 0

theorem valueOf_append_singleton (base : Nat) (digits : List Char) (c : Char) :
    valueOf base (digits ++ [c]) = base * valueOf base digits + (hexDigit? c).getD 0 := by
  simp [valueOf]

def isOctal (c : Char) : Bool := '0' ≤ c && c ≤ '7'

def isBinary (c : Char) : Bool := c = '0' || c = '1'

/-- Digits of a whole number in decimal: no zero stands before another digit. -/
def wholeDigits? : List Char → Option (List Char × List Char)
  | '0' :: cs => some (['0'], cs)
  | cs => digits? Char.isDigit cs

/-- Passes a sign, and says whether it is a minus. -/
def sign : List Char → Bool × List Char
  | '-' :: cs => (true, cs)
  | '+' :: cs => (false, cs)
  | cs => (false, cs)

/-!
# Whole numbers
-/

def word? (value : Int) : Option Int64 :=
  if Int64.minValue.toInt ≤ value ∧ value ≤ Int64.maxValue.toInt then some (Int64.ofInt value)
  else none

def inBase? (base : Nat) (isDigit : Char → Bool) (cs : List Char) :
    Option (Int64 × List Char) := do
  let (digits, rest) ← digits? isDigit cs
  let value ← word? (valueOf base digits)
  some (value, rest)

def integer? : List Char → Option (Int64 × List Char)
  | '0' :: 'x' :: cs => inBase? 16 (fun c => (hexDigit? c).isSome) cs
  | '0' :: 'o' :: cs => inBase? 8 isOctal cs
  | '0' :: 'b' :: cs => inBase? 2 isBinary cs
  | cs => do
      let (negative, cs) := sign cs
      let (digits, rest) ← wholeDigits? cs
      let size : Int := valueOf 10 digits
      let value ← word? (if negative then -size else size)
      some (value, rest)

/-!
# Floating-point numbers
-/

def fraction? : List Char → Option (List Char × List Char)
  | '.' :: cs => digits? Char.isDigit cs
  | _ => none

def exponent? : List Char → Option (Int × List Char)
  | c :: cs =>
      if c = 'e' || c = 'E' then do
        let (negative, cs) := sign cs
        let (digits, rest) ← digits? Char.isDigit cs
        let size : Int := valueOf 10 digits
        some (if negative then -size else size, rest)
      else none
  | [] => none

def decimal? (negative : Bool) (cs : List Char) : Option (Binary64 × List Char) := do
  let (whole, cs) ← wholeDigits? cs
  match fraction? cs with
  | some (places, cs) =>
      let (power, rest) := (exponent? cs).getD (0, cs)
      let number := Binary64.ofDecimal negative (valueOf 10 (whole ++ places))
        (power - places.length)
      some (number, rest)
  | none =>
      let (power, rest) ← exponent? cs
      some (Binary64.ofDecimal negative (valueOf 10 whole) power, rest)

/-- A number too great for the format is refused; one too small becomes minus infinity. -/
def float? (cs : List Char) : Option (Binary64 × List Char) :=
  match sign cs with
  | (negative, 'i' :: 'n' :: 'f' :: rest) => some (.infinite negative, rest)
  | (_, 'n' :: 'a' :: 'n' :: rest) => some (.notANumber, rest)
  | (negative, cs) =>
      match decimal? negative cs with
      | some (.infinite false, _) => none
      | answer => answer

end Document
end MessageBoard
