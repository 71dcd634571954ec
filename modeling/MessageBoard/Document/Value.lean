import MessageBoard.Document.Key
import MessageBoard.Document.Numeral
import MessageBoard.Document.Moment
import MessageBoard.Document.Outline

/-!
# Values

The first character of a value tells its kind, but for numerals and moments, which are tried in
turn.  Arrays may break their lines and have a comma after the last item; tables in braces may not.
Arrays and tables in braces nest fewer than eighty deep.

A loop over items ends because each item takes at least one character: the text at the start of the
loop is passed along as a bound on the number of items.
-/

namespace MessageBoard
namespace Document

abbrev NodeReader := List Char → Option (Node × List Char)

/-!
# Single values
-/

def textNode? : NodeReader := fun cs => do
  let (content, rest) ← quotation? cs
  some (.text ⟨cs, rest⟩ (String.ofList content), rest)

def booleanNode? : NodeReader := fun cs =>
  match cs with
  | 't' :: 'r' :: 'u' :: 'e' :: rest => some (.boolean ⟨cs, rest⟩ true, rest)
  | 'f' :: 'a' :: 'l' :: 's' :: 'e' :: rest => some (.boolean ⟨cs, rest⟩ false, rest)
  | _ => none

def floatNode? : NodeReader := fun cs => do
  let (value, rest) ← float? cs
  some (.float ⟨cs, rest⟩ value, rest)

def integerNode? : NodeReader := fun cs => do
  let (value, rest) ← integer? cs
  some (.integer ⟨cs, rest⟩ value, rest)

def momentNode? : NodeReader := fun cs => do
  let rest ← moment? cs
  some (.moment ⟨cs, rest⟩, rest)

/-- A moment, a floating-point number or a whole number, whichever the text begins with first. -/
def numberNode? : NodeReader := fun cs =>
  momentNode? cs <|> floatNode? cs <|> integerNode? cs

/-!
# Collections
-/

/-- The items of an array and its closing bracket. -/
def items? (item? : NodeReader) : List Char → List Char → Option (List Node × List Char)
  | [], _ => none
  | _ :: bound, cs =>
      match skipFiller false cs with
      | ']' :: rest => some ([], rest)
      | cs => do
          let (item, cs) ← item? cs
          match skipFiller false cs with
          | ',' :: cs =>
              let (items, rest) ← items? item? bound cs
              some (item :: items, rest)
          | ']' :: rest => some ([item], rest)
          | _ => none

def entry? (item? : NodeReader) (cs : List Char) : Option ((Key × Node) × List Char) := do
  let (key, cs) ← key? cs
  match cs with
  | '=' :: cs =>
      let (node, rest) ← item? (skipBlanks cs)
      some ((key, node), rest)
  | _ => none

/-- The entries of a table in braces, of which there is at least one, and its closing brace. -/
def entries? (item? : NodeReader) :
    List Char → List Char → Option (List (Key × Node) × List Char)
  | [], _ => none
  | _ :: bound, cs => do
      let (entry, cs) ← entry? item? cs
      match skipBlanks cs with
      | ',' :: cs =>
          let (entries, rest) ← entries? item? bound cs
          some (entry :: entries, rest)
      | '\x7d' :: rest => some ([entry], rest)
      | _ => none

def arrayNode? (item? : NodeReader) : NodeReader := fun cs =>
  match cs with
  | '[' :: inner => do
      let (items, rest) ← items? item? cs inner
      some (.array ⟨cs, rest⟩ items, rest)
  | _ => none

def bracesNode? (item? : NodeReader) : NodeReader := fun cs =>
  match cs with
  | '\x7b' :: inner => do
      let (entries, rest) ← match skipBlanks inner with
        | '\x7d' :: rest => some ([], rest)
        | inner => entries? item? cs inner
      let fields ← Fields.enter entries []
      some (.table (.braces ⟨cs, rest⟩) fields, rest)
  | _ => none

/-!
# All values
-/

def nestingLimit : Nat := 79

/-- Reads a value in which arrays and tables in braces nest at most `levels` deep. -/
def nodeWithin? : Nat → NodeReader
  | levels, cs =>
      match cs with
      | [] => none
      | c :: _ =>
          if c = '"' || c = '\'' then textNode? cs
          else if c = '[' then
            match levels with
            | 0 => none
            | levels + 1 => arrayNode? (nodeWithin? levels) cs
          else if c = '\x7b' then
            match levels with
            | 0 => none
            | levels + 1 => bracesNode? (nodeWithin? levels) cs
          else if c = 't' || c = 'f' then booleanNode? cs
          else if c = 'i' || c = 'n' then floatNode? cs
          else numberNode? cs

def node? : NodeReader := nodeWithin? nestingLimit

end Document
end MessageBoard
