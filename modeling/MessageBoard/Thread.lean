import MessageBoard.Calendar.LocalTime

/-!
# Threads

What a thread posts is signed with the thread's name.
-/

namespace MessageBoard

structure Thread where
  name : Option String
  deriving DecidableEq, Inhabited

namespace Thread

def main : Thread := ⟨some "main"⟩

/-- What stands for the name of a thread that has none. -/
def unknownSource : String := "Unknown"

def source (thread : Thread) : String := thread.name.getD unknownSource

end Thread

structure Caller where
  thread : Thread
  now : Calendar.Instant

end MessageBoard
