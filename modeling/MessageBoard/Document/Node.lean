import MessageBoard.Number.Binary64

/-!
# Document trees

A document in the configuration notation TOML 1.0 is a table: a list of named values in the order
in which their names first appear.  Every value remembers where it is written, so that a complaint
about it can show the place.
-/

namespace MessageBoard
namespace Document

/-!
# Places

A place in a document is what remains of the document from there on; a span is the stretch between
two places.
-/

structure Span where
  start : List Char
  stop : List Char
  deriving DecidableEq, Inhabited

/-- A name as it counts, with the stretch where it is written. -/
structure Name where
  text : String
  span : Span
  deriving DecidableEq, Inhabited

/-- A dotted key: the names of the tables on the way, and the name it gives a value to. -/
structure Key where
  path : List Name
  name : Name
  deriving DecidableEq, Inhabited

/-!
# Values

What a later line may add to a table depends on how the table came about: one in braces is complete
as it stands.  Repeated headers of one name make a value of several tables.
-/

inductive Origin where
  | braces (span : Span)
  | header (span : Span)
  /-- Never written itself, but on the way to a table with a header. -/
  | underHeader
  /-- Never written itself, but on the way of a dotted key. -/
  | underKey
  deriving DecidableEq, Inhabited

inductive Node where
  | text (span : Span) (content : String)
  | integer (span : Span) (value : Int64)
  | float (span : Span) (value : Binary64)
  | boolean (span : Span) (value : Bool)
  | moment (span : Span)
  | array (span : Span) (items : List Node)
  | table (origin : Origin) (fields : List (Name × Node))
  | tables (items : List Node)
  deriving Inhabited

abbrev Fields := List (Name × Node)

namespace Origin

def span? : Origin → Option Span
  | braces span => some span
  | header span => some span
  | underHeader => none
  | underKey => none

end Origin

namespace Node

/-- Where a value that is not made of several tables is written, if it is written at all. -/
def ownSpan? : Node → Option Span
  | text span _ => some span
  | integer span _ => some span
  | float span _ => some span
  | boolean span _ => some span
  | moment span => some span
  | array span _ => some span
  | table origin _ => origin.span?
  | tables _ => none

/-- Where a value is written; repeated tables reach from the first of them to the last. -/
def span? (node : Node) : Option Span :=
  match node with
  | tables items => do
      let first ← items.head? >>= ownSpan?
      let last ← items.getLast? >>= ownSpan?
      some ⟨first.start, last.stop⟩
  | node => node.ownSpan?

end Node

def Fields.get? (fields : Fields) (name : String) : Option Node :=
  match fields with
  | [] => none
  | (n, node) :: rest => if n.text = name then some node else Fields.get? rest name

end Document
end MessageBoard
