/-!
# Characters of a document

A reader takes what remains of a document and answers with a value and what remains after it; a
skipper answers with what remains alone.  This module has the classes of characters and the
skippers for blanks, comments and line ends.
-/

namespace MessageBoard
namespace Document

/-!
# Character classes
-/

def isBlank (c : Char) : Bool := c = ' ' || c = '\t'

/-- May stand in a comment or a quotation: a tab, or no control character of ASCII. -/
def isVisible (c : Char) : Bool :=
  c = '\t' || (0x20 ≤ c.toNat && c.toNat ≤ 0x7E) || 0x80 ≤ c.toNat

def isBare (c : Char) : Bool := c.isAlphanum || c = '_' || c = '-'

def hexDigit? (c : Char) : Option Nat :=
  if '0' ≤ c && c ≤ '9' then some (c.toNat - '0'.toNat)
  else if 'a' ≤ c && c ≤ 'f' then some (c.toNat - 'a'.toNat + 10)
  else if 'A' ≤ c && c ≤ 'F' then some (c.toNat - 'A'.toNat + 10)
  else none

theorem ne_of_class {isIn : Char → Bool} {c d : Char} (hc : isIn c = true)
    (hd : isIn d = false) : c ≠ d := by
  rintro rfl
  rw [hc] at hd
  exact Bool.noConfusion hd

/-!
# Skipping
-/

def skipBlanks (cs : List Char) : List Char := cs.dropWhile isBlank

theorem skipBlanks_cons_of_not_blank {c : Char} (cs : List Char) (h : isBlank c = false) :
    skipBlanks (c :: cs) = c :: cs := by
  simp [skipBlanks, h]

def lineBreak? : List Char → Option (List Char)
  | '\n' :: cs => some cs
  | '\r' :: '\n' :: cs => some cs
  | _ => none

def skipComment : List Char → List Char
  | '#' :: cs => cs.dropWhile isVisible
  | cs => cs

/-- Passes the rest of a line that has nothing more to say, with its line break if it has one. -/
def lineEnd? (cs : List Char) : Option (List Char) :=
  match skipComment (skipBlanks cs) with
  | [] => some []
  | rest => lineBreak? rest

/--
Passes blanks, line breaks and comments.  A comment that its line break does not follow leaves the
first character that cannot be part of it.
-/
def skipFiller (inComment : Bool) : List Char → List Char
  | [] => []
  | '\n' :: cs => skipFiller false cs
  | '\r' :: '\n' :: cs => skipFiller false cs
  | c :: cs =>
      if inComment then
        if isVisible c then skipFiller true cs else c :: cs
      else if c = '#' then skipFiller true cs
      else if isBlank c then skipFiller false cs
      else c :: cs

end Document
end MessageBoard
