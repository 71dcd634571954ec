import MessageBoard.Text.Quoted
import MessageBoard.Number.Whole

/-!
# Settings

A board is set up with the number of entries that it keeps and, if one is wanted, a text of welcome.
-/

namespace MessageBoard

namespace Settings

def defaultCapacity : UInt64 := 1000

end Settings

structure Settings where
  capacity : UInt64
  welcome : Option String
  deriving DecidableEq

namespace Settings

def default : Settings := ⟨defaultCapacity, none⟩

instance : Inhabited Settings := ⟨default⟩

def customaryPath : String := "studio.toml"

/-- The settings in record notation, inside the record of everything that can be set. -/
def described (settings : Settings) : String :=
  "Config \x7b messenger: MessengerConfig \x7b capacity: " ++ String.ofList (decimal settings.capacity.toNat)
    ++ ", welcome: "
    ++ (match settings.welcome with
        | none => "None"
        | some text => "Some(" ++ Text.quoted text ++ ")")
    ++ " \x7d \x7d"

end Settings

end MessageBoard
