import MessageBoard.Document.Lexis

/-!
# Quotations

A text is quoted in one of four ways: between double quotes, where a backslash begins an escape, or
between single quotes, where every character stands for itself; and either on one line between
single marks, or over several lines between triple marks.
-/

namespace MessageBoard
namespace Document

/-- What a reader of a quotation answers: the characters meant, and what remains. -/
abbrev Quotation := Option (List Char × List Char)

namespace Quotation

def emit (c : Char) (quotation : Quotation) : Quotation :=
  quotation.map fun (content, rest) => (c :: content, rest)

end Quotation

/-!
# The closing marks

Over several lines one or two marks may stand directly before the closing three and belong to the
text.
-/

def closeLine? (mark : Char) : List Char → Quotation
  | c :: rest => if c = mark then some ([], rest) else none
  | [] => none

def runLength (mark : Char) (cs : List Char) : Nat := (cs.takeWhile (· = mark)).length

/-- Passes the closing marks of a quotation over several lines, and gives the marks before them. -/
def closeLines? (mark : Char) (cs : List Char) : Quotation :=
  let run := min (runLength mark cs) 5
  if 3 ≤ run then some (List.replicate (run - 3) mark, cs.drop run) else none

def close? (lines : Bool) (mark : Char) (cs : List Char) : Quotation :=
  if lines then closeLines? mark cs else closeLine? mark cs

/-!
# Single quotes
-/

/-- Is the line feed of a carriage return that stands directly before this. -/
def followsReturn (cs : List Char) : Bool := cs.head? = some '\n'

/-- Reads up to the closing mark; a line break reads as a line feed. -/
def literal (lines : Bool) : List Char → Quotation
  | [] => none
  | c :: cs =>
      match close? lines '\'' (c :: cs) with
      | some closed => some closed
      | none =>
          if isVisible c then Quotation.emit c (literal lines cs)
          else if lines && c = '\n' then Quotation.emit c (literal lines cs)
          else if lines && c = '\r' && followsReturn cs then literal lines cs
          else none

/-!
# Double quotes
-/

def escaped? (letter : Char) : Option Char :=
  match letter with
  | 'b' => some '\x08'
  | 't' => some '\t'
  | 'n' => some '\n'
  | 'f' => some '\x0c'
  | 'r' => some '\r'
  | '"' => some '"'
  | '\\' => some '\\'
  | _ => none

def announced? (letter : Char) : Option Nat :=
  match letter with
  | 'u' => some 4
  | 'U' => some 8
  | _ => none

def character? (code : Nat) : Option Char :=
  if h : code.isValidChar then some (Char.ofNatAux code h) else none

/-- What the characters before have announced. -/
inductive Phase where
  | plain
  | escape
  /-- An escape still lacks `missing + 1` hexadecimal digits; those read so far give `value`. -/
  | digits (missing value : Nat)
  /-- A backslash and blanks came last: the line must end. -/
  | lineEnd
  /-- A backslash ended a line: blanks and line breaks are passed. -/
  | margin
  deriving DecidableEq

def basic (lines : Bool) : Phase → List Char → Quotation
  | _, [] => none
  | .escape, c :: cs =>
      match escaped? c, announced? c with
      | some meant, _ => Quotation.emit meant (basic lines .plain cs)
      | none, some count => basic lines (.digits (count - 1) 0) cs
      | none, none =>
          if !lines then none
          else if isBlank c then basic lines .lineEnd cs
          else if c = '\n' then basic lines .margin cs
          else if c = '\r' && followsReturn cs then basic lines .lineEnd cs
          else none
  | .digits missing value, c :: cs =>
      match hexDigit? c, missing with
      | none, _ => none
      | some digit, 0 =>
          match character? (16 * value + digit) with
          | some meant => Quotation.emit meant (basic lines .plain cs)
          | none => none
      | some digit, missing + 1 => basic lines (.digits missing (16 * value + digit)) cs
  | .lineEnd, c :: cs =>
      if isBlank c then basic lines .lineEnd cs
      else if c = '\n' then basic lines .margin cs
      else if c = '\r' && followsReturn cs then basic lines .lineEnd cs
      else none
  | phase, c :: cs =>
      match close? lines '"' (c :: cs) with
      | some closed => some closed
      | none =>
          if phase = .margin && (isBlank c || c = '\n') then basic lines .margin cs
          else if c = '\\' then basic lines .escape cs
          else if isVisible c then Quotation.emit c (basic lines .plain cs)
          else if lines && c = '\n' then Quotation.emit c (basic lines .plain cs)
          else if lines && c = '\r' && followsReturn cs then basic lines phase cs
          else none

/-!
# All four forms
-/

/-- A line break directly after the opening marks does not belong to the text. -/
def afterOpening (cs : List Char) : List Char := (lineBreak? cs).getD cs

def lineQuotation? : List Char → Quotation
  | '"' :: cs => basic false .plain cs
  | '\'' :: cs => literal false cs
  | _ => none

def quotation? : List Char → Quotation
  | '"' :: '"' :: '"' :: cs => basic true .plain (afterOpening cs)
  | '\'' :: '\'' :: '\'' :: cs => literal true (afterOpening cs)
  | cs => lineQuotation? cs

end Document
end MessageBoard
