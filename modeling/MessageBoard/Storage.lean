/-!
# Storage

Files and directories as a working directory shows them.  A file holds bytes; a path is a text
whose parts stand between slashes.
-/

namespace MessageBoard

namespace Storage

/-!
# Contents
-/

inductive Item where
  | file (content : ByteArray)
  | directory
  deriving Inhabited

/-- Where a path sets out: at the root, or so many directories above the working directory. -/
inductive Start where
  | root
  | above (levels : Nat)
  deriving DecidableEq, Inhabited

/-- The names that lead from a start to an item. -/
structure Place where
  start : Start
  names : List String
  deriving DecidableEq, Inhabited

namespace Place

def child (place : Place) (name : String) : Place := ⟨place.start, place.names ++ [name]⟩

/-- The directory that holds a place; the root holds itself. -/
def parent (place : Place) : Place :=
  match place.names, place.start with
  | [], .root => place
  | [], .above levels => ⟨.above (levels + 1), []⟩
  | names, start => ⟨start, names.dropLast⟩

end Place

inductive Fault where
  | nulInName
  | missing
  | notDirectory
  | isDirectory
  | nameTooLong
  | notText
  | other (text : String)
  deriving DecidableEq, Inhabited

def Fault.message : Fault → String
  | nulInName => "file name contained an unexpected NUL byte"
  | missing => "No such file or directory (os error 2)"
  | notDirectory => "Not a directory (os error 20)"
  | isDirectory => "Is a directory (os error 21)"
  | nameTooLong => "File name too long (os error 36)"
  | notText => "stream did not contain valid UTF-8"
  | other text => text

end Storage

/-- What lies at each place; a start is always a directory. -/
structure Storage where
  items : List (Storage.Place × Storage.Item)
  deriving Inhabited

namespace Storage

def empty : Storage := ⟨[]⟩

def item? (storage : Storage) (place : Place) : Option Item :=
  if place.names = [] then some .directory else storage.items.lookup place

def put (storage : Storage) (place : Place) (item : Item) : Storage :=
  ⟨(place, item) :: storage.items.filter (·.1 ≠ place)⟩

/-!
# Paths

The slashes of a path divide it into parts, and several slashes count as one.  A slash before the
first part makes the path set out at the root; one after the last part says that a directory is
meant.
-/

/-- What stands between the slashes of a text, empty pieces included. -/
def pieces : List Char → List (List Char)
  | [] => [[]]
  | c :: cs =>
      if c = '/' then [] :: pieces cs
      else
        match pieces cs with
        | piece :: rest => (c :: piece) :: rest
        | [] => [[c]]

structure Path where
  start : Start
  parts : List String
  forDirectory : Bool
  deriving DecidableEq

def pathLimit : Nat := 4095

/-- The path that a text is; an empty text names nothing. -/
def Path.ofText (text : String) : Except Fault Path :=
  if text.toList.contains '\x00' then .error .nulInName
  else if text = "" then .error .missing
  else if pathLimit < text.utf8ByteSize then .error .nameTooLong
  else .ok
    { start := if text.toList.head? = some '/' then .root else .above 0
      parts := ((pieces text.toList).filter (· ≠ [])).map String.ofList
      forDirectory := text.toList.getLast? = some '/' }

/-!
# Following paths

Every part but the last must name a directory.  A single dot stays in its directory, and two dots
lead back to the one that holds it.
-/

def nameLimit : Nat := 255

/-- Goes into a place, which has to be a directory. -/
def enter (storage : Storage) (place : Place) : Except Fault Unit :=
  match storage.item? place with
  | none => .error .missing
  | some (.file _) => .error .notDirectory
  | some .directory => .ok ()

/-- One part of a path, taken from a directory; nothing need be where it leads. -/
def step (storage : Storage) (place : Place) (part : String) : Except Fault Place := do
  storage.enter place
  if part = "." then .ok place
  else if part = ".." then .ok place.parent
  else if nameLimit < part.utf8ByteSize then .error .nameTooLong
  else .ok (place.child part)

def follow (storage : Storage) (start : Start) (parts : List String) : Except Fault Place :=
  parts.foldlM storage.step ⟨start, []⟩

/-- The place of something that should be there already. -/
def locate (storage : Storage) (text : String) : Except Fault Place := do
  let path ← Path.ofText text
  let place ← storage.follow path.start path.parts
  if path.forDirectory then storage.enter place
  .ok place

/--
The place of a file that need not be there yet.  A path for a directory is refused before its last
part is looked at.
-/
def locateFile (storage : Storage) (text : String) : Except Fault Place := do
  let path ← Path.ofText text
  let place ← storage.follow path.start path.parts.dropLast
  match path.parts.getLast? with
  | none => .error .isDirectory
  | some part =>
      if path.forDirectory then do
        storage.enter place
        .error .isDirectory
      else storage.step place part

/-!
# Reading and writing
-/

def read (storage : Storage) (path : String) : Except Fault ByteArray := do
  let place ← storage.locate path
  match storage.item? place with
  | none => .error .missing
  | some .directory => .error .isDirectory
  | some (.file content) => .ok content

def readText (storage : Storage) (path : String) : Except Fault String := do
  let content ← storage.read path
  match String.fromUTF8? content with
  | some text => .ok text
  | none => .error .notText

/-- Makes the content of a file what is given, whatever it was. -/
def write (storage : Storage) (path : String) (content : ByteArray) : Except Fault Storage := do
  let place ← storage.locateFile path
  match storage.item? place with
  | some .directory => .error .isDirectory
  | _ => .ok (storage.put place (.file content))

/-- Makes a directory where a path leads, if nothing is there. -/
def makeDirectory (storage : Storage) (text : String) : Except Fault Storage := do
  let path ← Path.ofText text
  let place ← storage.follow path.start path.parts
  match storage.item? place with
  | some _ => .ok storage
  | none => .ok (storage.put place .directory)

end Storage

end MessageBoard
