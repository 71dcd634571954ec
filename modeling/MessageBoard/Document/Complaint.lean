import MessageBoard.Document.Node
import MessageBoard.Number.Shortest
import MessageBoard.Number.Whole
import MessageBoard.Text.Quoted

/-!
# Complaints

A complaint says that a value of a document is not of the kind expected at its place, or that it is
of the right kind but out of bounds.  It shows the line on which the value begins, with carets under
the value.
-/

namespace MessageBoard
namespace Document

structure Complaint where
  found : Node
  span : Span
  rightKind : Bool
  expected : String

/-- A value as complaints name it. -/
def Node.appellation : Node → String
  | .text _ content => "string " ++ Text.quoted content
  | .integer _ value => "integer `" ++ String.ofList (signedDecimal value.toInt) ++ "`"
  | .float _ value => "floating point `" ++ value.display ++ "`"
  | .boolean _ true => "boolean `true`"
  | .boolean _ false => "boolean `false`"
  | .array _ _ => "sequence"
  | .tables _ => "sequence"
  | .table _ _ => "map"
  | .moment _ => "map"

namespace Complaint

def fault (complaint : Complaint) : String :=
  (if complaint.rightKind then "invalid value: " else "invalid type: ")
    ++ complaint.found.appellation ++ ", expected " ++ complaint.expected

/-!
# Showing the place
-/

def before (document place : List Char) : List Char :=
  document.take (document.length - place.length)

def lastLine (cs : List Char) : List Char :=
  (cs.reverse.takeWhile (· ≠ '\n')).reverse

def byteLength (cs : List Char) : Nat := cs.foldl (fun length c => length + c.utf8Size) 0

/-- The document's line with the span's start, its number, and carets under the span. -/
def excerpt (document : List Char) (span : Span) : String :=
  let earlier := before document span.start
  let indent := lastLine earlier
  let line := indent ++ span.start.takeWhile (· ≠ '\n')
  let number := String.ofList (decimal (earlier.count '\n' + 1))
  let column := indent.length + 1
  let room := byteLength line - indent.length
  let carets := max 1 (min (byteLength (before span.start span.stop)) room)
  let gutter := String.ofList (List.replicate (number.length + 1) ' ') ++ "|"
  "TOML parse error at line " ++ number ++ ", column " ++ String.ofList (decimal column) ++ "\n"
    ++ gutter ++ "\n"
    ++ number ++ " | " ++ String.ofList line ++ "\n"
    ++ gutter ++ String.ofList (List.replicate column ' ' ++ List.replicate carets '^') ++ "\n"

def message (document : List Char) (complaint : Complaint) : String :=
  excerpt document complaint.span ++ complaint.fault ++ "\n"

end Complaint

end Document
end MessageBoard
