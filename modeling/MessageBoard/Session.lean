import MessageBoard.Board
import MessageBoard.Settings.File

/-!
# Sessions

A session is a program's view of many boards.  It reaches a board through handles; a clone of a
handle leads to the same board.  Beside the boards there are files, from which boards can be set up.
-/

namespace MessageBoard

structure Session where
  storage : Storage
  boards : List Board
  /-- For each handle, in the order of creation, the number of its board. -/
  handles : List Nat

namespace Session

inductive Step where
  | openBoard (settings : Settings) (caller : Caller)
  | openFile (path : String) (caller : Caller)
  | clone (handle : Nat)
  | call (handle : Nat) (call : Call) (caller : Caller)
  | poison (handle : Nat) (lock : Lock)
  | load (path : String)
  | save (path : String) (settings : Settings)
  | write (path : String) (content : ByteArray)
  | makeDirectory (path : String)

inductive Outcome where
  | handle (number : Nat)
  | reply (reply : Except Failure Reply)
  | loaded (settings : Except Failure Settings)
  | saved (outcome : Except Failure Unit)
  | done
  /-- Nothing came of the step, not even a failure. -/
  | brokenOff
  | noHandle

def initial : Session := ⟨.empty, [], []⟩

/-!
# Handles
-/

def boardOf? (session : Session) (handle : Nat) : Option (Nat × Board) := do
  let number ← session.handles[handle]?
  let board ← session.boards[number]?
  some (number, board)

def addBoard (session : Session) (board : Board) : Outcome × Session :=
  (.handle session.handles.length,
    { session with
      boards := session.boards ++ [board]
      handles := session.handles ++ [session.boards.length] })

def setBoard (session : Session) (number : Nat) (board : Board) : Session :=
  { session with boards := session.boards.set number board }

/-!
# Steps
-/

/-- The storage after an attempt to change it. -/
def keep {ε : Type} (session : Session) (attempt : Except ε Storage) : Session :=
  match attempt with
  | .ok storage => { session with storage }
  | .error _ => session

def step (session : Session) : Step → Outcome × Session
  | .openBoard settings caller => session.addBoard (.ofSettings settings caller)
  | .openFile path caller =>
      session.addBoard (.ofLoaded (Settings.load session.storage path) caller)
  | .clone handle =>
      match session.boardOf? handle with
      | none => (.noHandle, session)
      | some (number, _) =>
          (.handle session.handles.length,
            { session with handles := session.handles ++ [number] })
  | .call handle call caller =>
      match session.boardOf? handle with
      | none => (.noHandle, session)
      | some (number, board) =>
          let (reply, board) := board.perform call caller
          (.reply reply, session.setBoard number board)
  | .poison handle lock =>
      match session.boardOf? handle with
      | none => (.noHandle, session)
      | some (number, board) => (.done, session.setBoard number (board.poison lock))
  | .load path => (.loaded (Settings.load session.storage path), session)
  | .save path settings =>
      match settings.save? session.storage path with
      | none => (.brokenOff, session)
      | some attempt => (.saved (attempt.map fun _ => ()), session.keep attempt)
  | .write path content => (.done, session.keep (session.storage.write path content))
  | .makeDirectory path => (.done, session.keep (session.storage.makeDirectory path))

def run (session : Session) : List Step → List Outcome × Session
  | [] => ([], session)
  | step :: steps =>
      let (outcome, session) := session.step step
      let (outcomes, session) := session.run steps
      (outcome :: outcomes, session)

theorem run_nil (session : Session) : session.run [] = ([], session) := rfl

theorem run_cons (session : Session) (step : Step) (steps : List Step) :
    session.run (step :: steps) =
      ((session.step step).1 :: ((session.step step).2.run steps).1,
        ((session.step step).2.run steps).2) := rfl

end Session

end MessageBoard
