import MessageBoard.Text.Printable
import MessageBoard.Text.Combining

/-!
# Quoted text

Quoted text shows every character on one line between double quotes.  A character that would end
the quotation, break the line, stay invisible or join the character before it is written as an
escape; all others stand for themselves.
-/

namespace MessageBoard
namespace Text

/-- The letter after the backslash, for the characters with an escape of two characters. -/
def shortEscape? (c : Char) : Option Char :=
  match c with
  | '"' => some '"'
  | '\\' => some '\\'
  | '\t' => some 't'
  | '\n' => some 'n'
  | '\r' => some 'r'
  | '\x00' => some '0'
  | _ => none

def escape (c : Char) : List Char :=
  match shortEscape? c with
  | some letter => ['\\', letter]
  | none =>
      if isCombining c || !isPrintable c then
        ['\\', 'u', '\x7b'] ++ Nat.toDigits 16 c.toNat ++ ['\x7d']
      else
        [c]

def escapeAll (cs : List Char) : List Char :=
  cs.flatMap escape

theorem escapeAll_cons (c : Char) (cs : List Char) :
    escapeAll (c :: cs) = escape c ++ escapeAll cs := rfl

def quoted (s : String) : String :=
  "\"" ++ String.ofList (escapeAll s.toList) ++ "\""

end Text
end MessageBoard
