import MessageBoard.Document.Value

/-!
# Reading documents

A document is a sequence of lines, but for values that break their lines themselves.  A line holds
an entry, a header, or nothing; a comment may end it.  A text that is no document has no tree.
-/

namespace MessageBoard
namespace Document

/-!
# Lines
-/

inductive Line where
  | entry (key : Key) (node : Node)
  | header (repeated : Bool) (key : Key) (span : Span)

def headerLine? (cs : List Char) : Option (Line × List Char) :=
  match cs with
  | '[' :: '[' :: inner => do
      let (key, inner) ← key? inner
      match inner with
      | ']' :: ']' :: rest => some (.header true key ⟨cs, rest⟩, rest)
      | _ => none
  | '[' :: inner => do
      let (key, inner) ← key? inner
      match inner with
      | ']' :: rest => some (.header false key ⟨cs, rest⟩, rest)
      | _ => none
  | _ => none

def entryLine? (cs : List Char) : Option (Line × List Char) := do
  let ((key, node), rest) ← entry? node? cs
  some (.entry key node, rest)

/-- The lines of a text that hold something; every line takes at least one character of it. -/
def lines? : List Char → List Char → Option (List Line)
  | [], _ => none
  | _ :: bound, cs =>
      match skipBlanks cs with
      | [] => some []
      | c :: rest => do
          if c = '#' || c = '\n' || c = '\r' then
            let cs ← lineEnd? (c :: rest)
            lines? bound cs
          else
            let (line, cs) ← if c = '[' then headerLine? (c :: rest) else entryLine? (c :: rest)
            let cs ← lineEnd? cs
            let lines ← lines? bound cs
            some (line :: lines)

/-!
# Sections
-/

def divide : List Line → List (Key × Node) × List Section
  | [] => ([], [])
  | .entry key node :: lines =>
      let (entries, sections) := divide lines
      ((key, node) :: entries, sections)
  | .header repeated key span :: lines =>
      let (entries, sections) := divide lines
      ([], ⟨repeated, key, span, entries⟩ :: sections)

/-- A byte order mark may come first. -/
def skipMark : List Char → List Char
  | '\ufeff' :: cs => cs
  | cs => cs

def read? (text : List Char) : Option Fields := do
  let lines ← lines? (' ' :: text) (skipMark text)
  let (entries, sections) := divide lines
  outline entries sections

end Document
end MessageBoard
