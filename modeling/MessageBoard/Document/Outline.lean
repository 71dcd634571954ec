import MessageBoard.Document.Node

/-!
# Outlines

The outline of a document says which table each value belongs to: a table has entries under its
header, and an entry may give a value to a dotted key.  This module builds tables from entries and
headers, and refuses what defines a name twice or adds to a table that is complete.
-/

namespace MessageBoard
namespace Document

namespace Fields

/-- Replaces the value of a name, or adds a value at the end if the name has none. -/
def alter (name : Name) (change : Option Node → Option Node) : Fields → Option Fields
  | [] => do
      let node ← change none
      some [(name, node)]
  | (n, node) :: rest =>
      if n.text = name.text then do
        let node ← change (some node)
        some ((n, node) :: rest)
      else do
        let rest ← alter name change rest
        some ((n, node) :: rest)

theorem alter_nil (name : Name) (change : Option Node → Option Node) :
    alter name change [] = (change none).map fun node => [(name, node)] := by
  cases h : change none <;> simp [alter, h]

def extract (name : Name) : Fields → Option Node × Fields
  | [] => (none, [])
  | (n, node) :: rest =>
      if n.text = name.text then (some node, rest)
      else
        let (found, rest) := extract name rest
        (found, (n, node) :: rest)

def define (name : Name) (node : Node) (fields : Fields) : Option Fields :=
  if fields.any (·.1.text = name.text) then none else some (fields ++ [(name, node)])

/-!
# Entries

A dotted key may pass tables that no line has written in full.  The last of them must have come
about by dotted keys alone.
-/

/-- Gives a value to a name in the table at the end of a path. -/
def assign (name : Name) (node : Node) : List Name → Fields → Option Fields
  | [], fields => define name node fields
  | step :: path, fields =>
      alter step (fun
        | none => (assign name node path []).map (Node.table .underKey)
        | some (.table .underKey inner) =>
            (assign name node path inner).map (Node.table .underKey)
        | some (.table .underHeader inner) =>
            if path.isEmpty then none
            else (assign name node path inner).map (Node.table .underHeader)
        | some (.tables items) =>
            if path.isEmpty then none
            else
              match items.getLast? with
              | some (.table origin inner) =>
                  (assign name node path inner).map fun inner =>
                    .tables (items.dropLast ++ [.table origin inner])
              | _ => none
        | some _ => none) fields

def enter (entries : List (Key × Node)) (fields : Fields) : Option Fields :=
  entries.foldlM (fun fields (key, node) => assign key.name node key.path fields) fields

/-!
# Headers

A header may pass every table but one in braces, and of repeated tables the last.
-/

/-- Changes the table at the end of a path, which is opened where it is missing. -/
def within (change : Fields → Option Fields) : List Name → Fields → Option Fields
  | [], fields => change fields
  | step :: path, fields =>
      alter step (fun
        | none => (within change path []).map (Node.table .underHeader)
        | some (.table (.braces _) _) => none
        | some (.table origin inner) => (within change path inner).map (Node.table origin)
        | some (.tables items) =>
            match items.getLast? with
            | some (.table origin inner) =>
                (within change path inner).map fun inner =>
                  .tables (items.dropLast ++ [.table origin inner])
            | _ => none
        | some _ => none) fields

end Fields

structure Section where
  repeated : Bool
  key : Key
  span : Span
  entries : List (Key × Node)

namespace Section

/-- From the header to the end of the last value under it. -/
def fullSpan (s : Section) : Span :=
  match s.entries.getLast? >>= fun entry => entry.2.span? with
  | some last => ⟨s.span.start, last.stop⟩
  | none => s.span

/-- The table that a section makes out of the fields it already had. -/
def table (s : Section) (fields : Fields) : Option Node :=
  (fields.enter s.entries).map (Node.table (.header s.fullSpan))

/--
Adds a section to the table that its header's name belongs to.  A table that lies under an earlier
header but has none of its own is taken over, and moves to the end.
-/
def addTo (s : Section) (parent : Fields) : Option Fields :=
  if s.repeated then
    parent.alter s.key.name fun
      | none => (s.table []).map fun node => .tables [node]
      | some (.tables items) => (s.table []).map fun node => .tables (items ++ [node])
      | some _ => none
  else
    match parent.extract s.key.name with
    | (none, parent) => (s.table []).map fun node => parent ++ [(s.key.name, node)]
    | (some (.table .underHeader fields), parent) =>
        (s.table fields).map fun node => parent ++ [(s.key.name, node)]
    | (some _, _) => none

end Section

/-- The root table of a document: the entries before the first header, then the sections. -/
def outline (entries : List (Key × Node)) (sections : List Section) : Option Fields := do
  let root ← Fields.enter entries []
  sections.foldlM (fun root s => root.within s.addTo s.key.path) root

end Document
end MessageBoard
