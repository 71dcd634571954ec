import MessageBoard.Document.Node
import MessageBoard.Document.Quotation

/-!
# Keys

A key is a name, bare or quoted on one line, or several names with dots between them and blanks
around each.  A key has fewer than eighty names.
-/

namespace MessageBoard
namespace Document

def bareName? (cs : List Char) : Quotation :=
  match cs.span isBare with
  | ([], _) => none
  | (name, rest) => some (name, rest)

def name? (cs : List Char) : Option (Name × List Char) := do
  let (content, rest) ← match cs with
    | '"' :: _ => lineQuotation? cs
    | '\'' :: _ => lineQuotation? cs
    | _ => bareName? cs
  some (⟨String.ofList content, ⟨cs, rest⟩⟩, rest)

def keyLimit : Nat := 79

/-- Reads a key of at most `limit` names and the blanks around it. -/
def keyUpTo? : Nat → List Char → Option (Key × List Char)
  | 0, _ => none
  | limit + 1, cs => do
      let (name, cs) ← name? (skipBlanks cs)
      match skipBlanks cs with
      | '.' :: cs =>
          let (key, rest) ← keyUpTo? limit cs
          some (⟨name :: key.path, key.name⟩, rest)
      | rest => some (⟨[], name⟩, rest)

def key? (cs : List Char) : Option (Key × List Char) := keyUpTo? keyLimit cs

end Document
end MessageBoard
