import MessageBoard.Document.Quotation

/-!
# Printing quotations

A text is printed in the plainest form that can hold it.  Single quotes hold no control character
but a tab, so texts with others need double quotes and escapes; texts with line feeds are printed
over several lines.

The choice of a form rests on the runs of quotes in a text.  A run is counted in one byte, so a text
with a longer one has no form.
-/

namespace MessageBoard
namespace Document

/-!
# What a text asks for
-/

/-- A control character of ASCII other than a tab and a line feed. -/
def isControl (c : Char) : Bool :=
  (c.toNat < 0x20 || c = '\x7f') && c ≠ '\t' && c ≠ '\n'

/-- The longest run of a character, where `current` of them came directly before. -/
def longestRunAfter (mark : Char) (current : Nat) : List Char → Nat
  | [] => current
  | c :: cs =>
      if c = mark then longestRunAfter mark (current + 1) cs
      else max current (longestRunAfter mark 0 cs)

def longestRun (mark : Char) (cs : List Char) : Nat := longestRunAfter mark 0 cs

def runLimit : Nat := 255

def hasCountableRuns (cs : List Char) : Bool :=
  longestRun '"' cs ≤ runLimit && longestRun '\'' cs ≤ runLimit

structure Form where
  mark : Char
  lines : Bool
  deriving DecidableEq

/-- The first form that can hold a text without escapes of quotes, else double quotes. -/
def formFor (cs : List Char) : Form :=
  let control := cs.any isControl
  let backslash := cs.contains '\\'
  let lines := cs.contains '\n'
  if !control && !backslash && longestRun '"' cs = 0 && !lines then ⟨'"', false⟩
  else if !control && longestRun '\'' cs = 0 && !lines then ⟨'\'', false⟩
  else if !control && !backslash && longestRun '"' cs ≤ 2 then ⟨'"', true⟩
  else if !control && longestRun '\'' cs ≤ 2 then ⟨'\'', true⟩
  else ⟨'"', lines⟩

/-!
# Escapes
-/

def upperHexDigit (n : Nat) : Char := (Nat.digitChar n).toUpper

/-- A character between double quotes, other than the quote itself and a raw line feed. -/
def printBasic (c : Char) : List Char :=
  match c with
  | '\x08' => ['\\', 'b']
  | '\t' => ['\\', 't']
  | '\n' => ['\\', 'n']
  | '\x0c' => ['\\', 'f']
  | '\r' => ['\\', 'r']
  | '\\' => ['\\', '\\']
  | c =>
      if isControl c then
        ['\\', 'u', '0', '0', upperHexDigit (c.toNat / 16), upperHexDigit (c.toNat % 16)]
      else [c]

def printLine (cs : List Char) : List Char :=
  cs.flatMap fun c => if c = '"' then ['\\', '"'] else printBasic c

/--
The text over several lines, where `run` quotes stand unescaped directly before: a third one would
close the quotation and is escaped.
-/
def printLines (run : Nat) : List Char → List Char
  | [] => []
  | c :: cs =>
      if c = '"' then
        if run = 2 then '\\' :: '"' :: printLines 0 cs else '"' :: printLines (run + 1) cs
      else if c = '\n' then '\n' :: printLines 0 cs
      else printBasic c ++ printLines 0 cs

/-!
# Quotations
-/

def Form.marks (form : Form) : List Char :=
  List.replicate (if form.lines then 3 else 1) form.mark

def Form.content (form : Form) (cs : List Char) : List Char :=
  if form.mark = '"' then
    if form.lines then printLines 0 cs else printLine cs
  else cs

/--
The text in the form for it, whatever its runs.  A text with a line feed begins on the line after
the opening marks.
-/
def printText (cs : List Char) : List Char :=
  let form := formFor cs
  form.marks ++ (if cs.contains '\n' then ['\n'] else []) ++ form.content cs ++ form.marks

def printText? (cs : List Char) : Option (List Char) :=
  if hasCountableRuns cs then some (printText cs) else none

end Document
end MessageBoard
