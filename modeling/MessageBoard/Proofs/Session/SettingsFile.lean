import MessageBoard.Proofs.Session.History
import MessageBoard.Proofs.Settings.Loading

/-!
# Boards from settings files

A board can be set up from a file of settings.  No later step can tell it from a board that was set
up with the settings in the file; and if there are no settings to be had, from a board with the
default settings whose opener reported why.
-/

namespace MessageBoard

/-- The whole state of a board that no thread has poisoned. -/
structure Board.Stands (board : Board) (capacity : Nat) (entries : List Entry) (unread : Bool) :
    Prop where
  capacity : board.log.capacity = capacity
  entries : board.log.entries = entries
  unread : board.unread = unread
  isSound : board.IsSound

namespace Session

def Indistinguishable (session other : Session) : Prop :=
  ∀ steps, (session.run steps).1 = (other.run steps).1

theorem Indistinguishable.refl (session : Session) : session.Indistinguishable session :=
  fun _ => rfl

/-!
# The board opened last

A new board is reached through the new handle, and what is done to it there could as well have been
done to it before it was added.
-/

theorem boardOf?_addBoard (session : Session) (board : Board) :
    (session.addBoard board).2.boardOf? session.handles.length =
      some (session.boards.length, board) := by
  refine boardOf?_eq_some_iff.mpr ⟨?_, ?_⟩
  · exact List.getElem?_concat_length
  · exact List.getElem?_concat_length

theorem setBoard_addBoard (session : Session) (board after : Board) :
    (session.addBoard board).2.setBoard session.boards.length after =
      (session.addBoard after).2 := by
  simp [setBoard, addBoard]

theorem step_call_addBoard (session : Session) {board : Board} (hsound : board.IsSound)
    (call : Call) (caller : Caller) :
    (session.addBoard board).2.step (.call session.handles.length call caller) =
      (.reply (.ok (board.act call caller).1),
        (session.addBoard (board.act call caller).2).2) := by
  rw [step_call_of_some (boardOf?_addBoard session board), Board.perform_of_isSound hsound,
    setBoard_addBoard]

/-!
# Files with settings
-/

/-- What a new board has to show: the welcome, if there is one and room for it. -/
def shownWelcome (settings : Settings) (caller : Caller) : List Entry :=
  lastItems settings.capacity.toNat
    (settings.welcome.map fun text => Entry.ofCaller ⟨text, .message⟩ caller).toList

/-- Opening a board from a file is like opening it with the given settings. -/
structure OpensAs (session : Session) (path : String) (caller : Caller) (settings : Settings) :
    Prop where
  outcome : (session.step (.openFile path caller)).1 = (session.step (.openBoard settings caller)).1
  later : (session.step (.openFile path caller)).2.Indistinguishable
    (session.step (.openBoard settings caller)).2
  board : ∃ board,
    (session.step (.openFile path caller)).2.boardOf? session.handles.length =
      some (session.boards.length, board) ∧
    board.Stands settings.capacity.toNat (shownWelcome settings caller) false

theorem stands_ofSettings (settings : Settings) (caller : Caller) :
    (Board.ofSettings settings caller).Stands settings.capacity.toNat
      (shownWelcome settings caller) false := by
  have hkept := History.keptBy_start settings caller
  exact ⟨hkept.capacity_eq, hkept.entries_eq, hkept.unread_eq, hkept.isSound⟩

/-- Without room even a welcome is not kept. -/
example (caller : Caller) : shownWelcome ⟨0, some "hi"⟩ caller = [] := rfl

theorem step_openFile_of_ok {session : Session} {path : String} {settings : Settings}
    (h : Settings.load session.storage path = .ok settings) (caller : Caller) :
    session.step (.openFile path caller) = session.step (.openBoard settings caller) := by
  show session.addBoard (.ofLoaded (Settings.load session.storage path) caller) = _
  rw [h]
  rfl

theorem opensAs_of_load {session : Session} {path : String} {settings : Settings}
    (h : Settings.load session.storage path = .ok settings) (caller : Caller) :
    session.OpensAs path caller settings := by
  constructor
  · rw [step_openFile_of_ok h]
  · rw [step_openFile_of_ok h]
    exact .refl _
  · rw [step_openFile_of_ok h]
    exact ⟨_, boardOf?_addBoard session _, stands_ofSettings settings caller⟩

/-!
# Files without settings
-/

/-- Opening a board with the default settings at some time and then posting an error to it. -/
def openAndReport (session : Session) (opened : Calendar.Instant) (text : String)
    (caller : Caller) : List Step :=
  [.openBoard Settings.default ⟨caller.thread, opened⟩,
    .call session.handles.length (.error text) caller]

def reportText (failure : Failure) : String :=
  "Error occurred while reading config file: " ++ failure.display

/--
Opening a board from a file is like opening it with the default settings and one report, which the
board accepts.
-/
structure OpensReporting (session : Session) (path : String) (caller : Caller)
    (failure : Failure) : Prop where
  kind : failure.kind = .settings
  outcome : (session.step (.openFile path caller)).1 = .handle session.handles.length
  reported : ∀ opened, (session.run (session.openAndReport opened (reportText failure) caller)).1 =
    [.handle session.handles.length, .reply (.ok .done)]
  later : ∀ opened, (session.step (.openFile path caller)).2.Indistinguishable
    (session.run (session.openAndReport opened (reportText failure) caller)).2
  board : ∃ board,
    (session.step (.openFile path caller)).2.boardOf? session.handles.length =
      some (session.boards.length, board) ∧
    board.Stands 1000 [⟨⟨reportText failure, .error⟩, caller.thread.source, caller.now⟩] true

/-- The default settings without a welcome leave no trace of when a board was opened. -/
theorem ofSettings_default (caller other : Caller) :
    Board.ofSettings Settings.default caller = Board.ofSettings Settings.default other := rfl

theorem step_openFile_of_error {session : Session} {path : String} {failure : Failure}
    (h : Settings.load session.storage path = .error failure) (caller : Caller) :
    session.step (.openFile path caller) =
      session.addBoard
        ((Board.ofSettings Settings.default caller).act (.error (reportText failure)) caller).2 := by
  show session.addBoard (.ofLoaded (Settings.load session.storage path) caller) = _
  rw [h, Board.ofLoaded, Board.perform_of_isSound (Board.isSound_ofSettings _ _)]
  rfl

theorem run_openAndReport (session : Session) (opened : Calendar.Instant) (text : String)
    (caller : Caller) :
    session.run (session.openAndReport opened text caller) =
      ([.handle session.handles.length, .reply (.ok .done)],
        (session.addBoard
          ((Board.ofSettings Settings.default caller).act (.error text) caller).2).2) := by
  have hopen : session.step (.openBoard Settings.default ⟨caller.thread, opened⟩) =
      session.addBoard (.ofSettings Settings.default caller) :=
    congrArg session.addBoard (ofSettings_default _ caller)
  have hcall := step_call_addBoard session (Board.isSound_ofSettings Settings.default caller)
    (.error text) caller
  rw [openAndReport, run_cons, run_cons, hopen, hcall]
  rfl

theorem stands_report (text : String) (caller : Caller) :
    ((Board.ofSettings Settings.default caller).act (.error text) caller).2.Stands 1000
      [⟨⟨text, .error⟩, caller.thread.source, caller.now⟩] true := by
  constructor
  · rfl
  · rfl
  · rfl
  · exact (Board.isSound_ofSettings Settings.default caller).act _ caller

theorem opensReporting_of_load {session : Session} {path : String} {failure : Failure}
    (h : Settings.load session.storage path = .error failure) (caller : Caller) :
    session.OpensReporting path caller failure := by
  have hopen := step_openFile_of_error h caller
  constructor
  · exact Settings.kind_of_load h
  · rw [hopen]
    rfl
  · intro opened
    rw [run_openAndReport]
  · intro opened
    rw [hopen, run_openAndReport]
    exact .refl _
  · rw [hopen]
    exact ⟨_, boardOf?_addBoard session _, stands_report _ caller⟩

/-!
# Files of saved settings
-/

theorem load_of_saved {session : Session} {path : String} {settings : Settings}
    (h : (session.step (.save path settings)).1 = .saved (.ok ())) :
    Settings.load (session.step (.save path settings)).2.storage path = .ok settings := by
  cases hsave : settings.save? session.storage path with
  | none => simp [step, hsave] at h
  | some attempt =>
      cases attempt with
      | error failure => simp [step, hsave, Except.map] at h
      | ok saved =>
          simpa [step, hsave, keep] using Settings.load_of_save? hsave

/-- What comes of opening a board from a file, whatever the file is. -/
structure OpensFile (session : Session) (path : String) (caller : Caller) : Prop where
  loaded : ∀ settings, Settings.load session.storage path = .ok settings →
    session.OpensAs path caller settings
  failed : ∀ failure, Settings.load session.storage path = .error failure →
    session.OpensReporting path caller failure
  saved : ∀ settings, (session.step (.save path settings)).1 = .saved (.ok ()) →
    (session.step (.save path settings)).2.OpensAs path caller settings

theorem opensFile (session : Session) (path : String) (caller : Caller) :
    session.OpensFile path caller := by
  constructor
  · intro settings hload
    exact opensAs_of_load hload caller
  · intro failure hload
    exact opensReporting_of_load hload caller
  · intro settings hsave
    exact opensAs_of_load (load_of_saved hsave) caller

end Session
end MessageBoard
