import MessageBoard.Text.Quoted

/-!
# Failures

An operation fails either because settings cannot be read or saved, or because threads can no
longer be kept apart.  A failure carries a message for the user.
-/

namespace MessageBoard

namespace Failure

inductive Kind where
  | synchronization
  | settings
  deriving DecidableEq, Inhabited

def Kind.word : Kind → String
  | synchronization => "Synchronization"
  | settings => "Config"

end Failure

structure Failure where
  kind : Failure.Kind
  message : String
  deriving DecidableEq, Inhabited

namespace Failure

def display (failure : Failure) : String :=
  failure.kind.word ++ ": " ++ failure.message

def described (failure : Failure) : String :=
  "Error \x7b message: " ++ Text.quoted failure.message ++ ", kind: " ++ failure.kind.word
    ++ " \x7d"

end Failure

end MessageBoard
