import MessageBoard.Failure
import MessageBoard.Storage
import MessageBoard.Settings.Decoding
import MessageBoard.Settings.Encoding

/-!
# Causes of failures

A failure is told in the words of its cause, and the cause decides its kind.
-/

namespace MessageBoard
namespace Failure

inductive Cause where
  | poisonedLock
  | storage (fault : Storage.Fault)
  | reading (fault : Settings.ReadFault)
  | writing (fault : Settings.WriteFault)

namespace Cause

def kind : Cause → Kind
  | poisonedLock => .synchronization
  | _ => .settings

def message : Cause → String
  | poisonedLock => "poisoned lock: another task failed inside"
  | storage fault => fault.message
  | reading fault => fault.message
  | writing fault => fault.message

end Cause

def ofCause (cause : Cause) : Failure := ⟨cause.kind, cause.message⟩

end Failure
end MessageBoard
