import MessageBoard.Text.Quoted

/-!
# Messages

A message is a text with a severity.  A plain message shows its text alone; a warning and an error
show their severity in front of it.
-/

namespace MessageBoard

inductive Severity where
  | message
  | warning
  | error
  deriving DecidableEq, Inhabited

namespace Severity

def all : List Severity := [message, warning, error]

def word : Severity → String
  | message => "Message"
  | warning => "Warning"
  | error => "Error"

end Severity

structure Message where
  text : String
  severity : Severity
  deriving DecidableEq, Inhabited

namespace Message

def plain (text : String) : Message := ⟨text, .message⟩

def display (m : Message) : String :=
  match m.severity with
  | .message => m.text
  | severity => severity.word ++ ": " ++ m.text

/-!
# Record notation

A message written with its field names, on one line or with a line for each field.
-/

def described (m : Message) : String :=
  "Message \x7b text: " ++ Text.quoted m.text ++ ", kind: " ++ m.severity.word ++ " \x7d"

def describedOnLines (m : Message) : String :=
  "Message \x7b\n    text: " ++ Text.quoted m.text ++ ",\n    kind: " ++ m.severity.word
    ++ ",\n\x7d"

/-!
# Editing
-/

/-- A change to a message that remembers how it began. -/
inductive Edit where
  | retext (text : String)
  | append (text : String)
  | reclassify (severity : Severity)
  | restore
  | makePlain

def edit (first : Message) (m : Message) : Edit → Message
  | .retext text => { m with text }
  | .append text => { m with text := m.text ++ text }
  | .reclassify severity => { m with severity }
  | .restore => first
  | .makePlain => { m with severity := .message }

/-!
# Collections of messages
-/

/-- For each message, the places of those equal to it. -/
def equalPlaces (messages : List Message) : List (List Nat) :=
  messages.map fun m => messages.zipIdx.filterMap fun (n, i) => if m = n then some i else none

/-- The places of the messages that no earlier one equals. -/
def firstPlaces (messages : List Message) : List Nat :=
  messages.zipIdx.filterMap fun (m, i) => if m ∈ messages.take i then none else some i

def severityCount (messages : List Message) : Nat :=
  Severity.all.countP fun severity => messages.any (·.severity == severity)

end Message

end MessageBoard
