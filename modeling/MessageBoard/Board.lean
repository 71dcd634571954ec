import MessageBoard.Log
import MessageBoard.Failure.Cause

/-!
# Boards

A board is a log that threads share, with a flag that is raised by every post and lowered when the
log is read.  The log and the flag have a lock each.  A thread that stops with a lock in its hands
poisons it, and from then on every call that needs this lock fails.
-/

namespace MessageBoard

inductive Lock where
  | log
  | flag
  deriving DecidableEq, Inhabited

structure Board where
  log : Log
  unread : Bool
  logPoisoned : Bool
  flagPoisoned : Bool
  deriving DecidableEq

/-!
# Calls
-/

inductive Call where
  | post (message : Message)
  | get
  | latest
  | hasNew
  | clear
  deriving DecidableEq

inductive Reply where
  | done
  | entries (entries : List Entry)
  | entry (entry : Option Entry)
  | flag (raised : Bool)
  deriving DecidableEq

namespace Call

def send (severity : Severity) (text : String) : Call := post ⟨text, severity⟩

def message (text : String) : Call := send .message text

def warning (text : String) : Call := send .warning text

def error (text : String) : Call := send .error text

end Call

namespace Board

/-- A new board: its flag is down, even if its log begins with a welcome. -/
def ofSettings (settings : Settings) (caller : Caller) : Board where
  log := .ofSettings settings caller
  unread := false
  logPoisoned := false
  flagPoisoned := false

def isPoisoned (board : Board) : Lock → Bool
  | .log => board.logPoisoned
  | .flag => board.flagPoisoned

def poison (board : Board) : Lock → Board
  | .log => { board with logPoisoned := true }
  | .flag => { board with flagPoisoned := true }

/-!
# Calls at work

A call takes its locks one after another, the log's before the flag's, and then reads and writes
what they guard.  It fails at the first lock that is poisoned; a failure undoes nothing.
-/

abbrev Work := EStateM Failure Board

def take (lock : Lock) : Work Unit := do
  if (← get).isPoisoned lock then throw (.ofCause .poisonedLock)

def setLog (change : Log → Log) : Work Unit :=
  modify fun board => { board with log := change board.log }

def setFlag (raised : Bool) : Work Unit :=
  modify fun board => { board with unread := raised }

def work (caller : Caller) : Call → Work Reply
  | .post message => do
      take .log
      take .flag
      setLog fun log => log.add (.ofCaller message caller)
      setFlag true
      return .done
  | .get => do
      take .log
      take .flag
      let entries := (← get).log.entries
      setFlag false
      return .entries entries
  | .latest => do
      take .log
      return .entry (← get).log.last?
  | .hasNew => do
      take .flag
      return .flag (← get).unread
  | .clear => do
      take .log
      take .flag
      setLog Log.clear
      setFlag false
      return .done

def perform (board : Board) (call : Call) (caller : Caller) : Except Failure Reply × Board :=
  match (work caller call).run board with
  | .ok reply board => (.ok reply, board)
  | .error failure board => (.error failure, board)

/-!
# Boards from settings files
-/

def loadReport (failure : Failure) : String :=
  "Error occurred while reading config file: " ++ failure.display

def ofLoaded (loaded : Except Failure Settings) (caller : Caller) : Board :=
  match loaded with
  | .ok settings => ofSettings settings caller
  | .error failure =>
      ((ofSettings Settings.default caller).perform (.error (loadReport failure)) caller).2

end Board

end MessageBoard
