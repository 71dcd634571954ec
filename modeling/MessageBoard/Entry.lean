import MessageBoard.Message
import MessageBoard.Pattern.Reader
import MessageBoard.Thread

/-!
# Entries

An entry is a message as a log holds it, with the thread that posted it and the time.
-/

namespace MessageBoard

structure Entry where
  message : Message
  source : String
  time : Calendar.Instant
  deriving DecidableEq

namespace Entry

def ofCaller (message : Message) (caller : Caller) : Entry :=
  ⟨message, caller.thread.source, caller.now⟩

def timePattern : String := "%H:%M:%S"

/-- The time of an entry in a zone, if the pattern and the time allow it. -/
def timeText? (entry : Entry) (zone : Calendar.Zone) (pattern : String) : Option String :=
  Pattern.format? pattern ⟨entry.time, zone⟩

def body (entry : Entry) : String := entry.source ++ ": " ++ entry.message.display

def display? (entry : Entry) (zone : Calendar.Zone) : Option String :=
  (entry.timeText? zone timePattern).map fun time => "[" ++ time ++ "] " ++ entry.body

def described (entry : Entry) : String :=
  "LoggedMessage \x7b message: " ++ entry.message.described ++ ", src: "
    ++ Text.quoted entry.source ++ ", time: SystemTime \x7b tv_sec: "
    ++ String.ofList (signedDecimal entry.time.seconds) ++ ", tv_nsec: "
    ++ String.ofList (decimal entry.time.nanos.val) ++ " \x7d \x7d"

end Entry

end MessageBoard
