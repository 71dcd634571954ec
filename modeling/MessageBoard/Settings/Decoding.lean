import MessageBoard.Settings
import MessageBoard.Document.Reader
import MessageBoard.Document.Complaint

/-!
# Settings in documents

A document gives settings under the name `messenger`, as a table with the names `capacity` and
`welcome` or as an array with the two values in this order.  What is missing has its default, and
other names count for nothing.  Values are looked at in the order of the document, and the first
that does not fit is complained about.
-/

namespace MessageBoard
namespace Settings

open Document

/-!
# Single values
-/

def complain {α : Type} (found : Node) (span : Span) (expected : String) :
    Except Complaint α :=
  .error ⟨found, span, false, expected⟩

/-- A capacity is a whole number that is not negative. -/
def decodeCapacity (node : Node) (span : Span) : Except Complaint UInt64 :=
  match node with
  | .integer _ value =>
      if 0 ≤ value then .ok value.toUInt64
      else .error ⟨node, span, true, "usize"⟩
  | _ => complain node span "usize"

def decodeWelcome (node : Node) (span : Span) : Except Complaint String :=
  match node with
  | .text _ content => .ok content
  | _ => complain node span "a string"

/-!
# The settings of a board
-/

def decodeField (settings : Settings) (name : Name) (node : Node) : Except Complaint Settings :=
  let span := node.span?.getD name.span
  if name.text = "capacity" then do
    let capacity ← decodeCapacity node span
    .ok { settings with capacity }
  else if name.text = "welcome" then do
    let welcome ← decodeWelcome node span
    .ok { settings with welcome := some welcome }
  else .ok settings

def decodeFields (fields : Fields) : Except Complaint Settings :=
  fields.foldlM (fun settings (name, node) => settings.decodeField name node) default

/-- Items have no names to stand in for a place, but they always have a place of their own. -/
def decodeItems (span : Span) (items : List Node) : Except Complaint Settings := do
  let capacity ← match items[0]? with
    | none => .ok defaultCapacity
    | some node => decodeCapacity node (node.span?.getD span)
  let welcome ← match items[1]? with
    | none => .ok none
    | some node => some <$> decodeWelcome node (node.span?.getD span)
  .ok ⟨capacity, welcome⟩

def decodeNode (name : Name) (node : Node) : Except Complaint Settings :=
  let span := node.span?.getD name.span
  match node with
  | .table _ fields => decodeFields fields
  | .array _ items => decodeItems span items
  | .tables items => decodeItems span items
  | .moment _ => .ok default
  | _ => complain node span "struct MessengerConfig"

/-!
# Whole documents
-/

def decodeRoot (root : Fields) : Except Complaint Settings :=
  root.foldlM
    (fun settings (name, node) =>
      if name.text = "messenger" then decodeNode name node else .ok settings)
    default

/-- Why a text gives no settings. -/
inductive ReadFault where
  | malformed
  | unfit (document : List Char) (complaint : Complaint)
  | other (text : String)

def ReadFault.message : ReadFault → String
  | malformed => "<toml syntax error>"
  | unfit document complaint => complaint.message document
  | other text => text ++ "\n"

def decode (text : String) : Except ReadFault Settings :=
  match Document.read? text.toList with
  | none => .error .malformed
  | some root =>
      match decodeRoot root with
      | .ok settings => .ok settings
      | .error complaint => .error (.unfit text.toList complaint)

end Settings
end MessageBoard
