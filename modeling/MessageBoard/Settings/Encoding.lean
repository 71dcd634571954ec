import MessageBoard.Settings
import MessageBoard.Document.Printer

/-!
# Documents of settings

Settings are saved as a document with one table.  Whole numbers of a document have 64 bits with a
sign, so the upper half of the capacities cannot be saved; neither can a welcome that no quotation
holds.
-/

namespace MessageBoard
namespace Settings

inductive WriteFault where
  | capacityTooGreat
  | other (text : String)
  deriving DecidableEq

def WriteFault.message : WriteFault → String
  | capacityTooGreat => "out-of-range value for u64 type"
  | other text => text

/-- The first capacity that cannot be saved. -/
def savableLimit : UInt64 := 0x8000000000000000

def headerLine : List Char := "[messenger]\n".toList

def capacityLine (capacity : UInt64) : List Char :=
  "capacity = ".toList ++ decimal capacity.toNat ++ ['\n']

/-- No text at all without a welcome, and none to be had from a welcome without a printed form. -/
def welcomeLine? : Option String → Option (List Char)
  | none => some []
  | some welcome => do
      let printed ← Document.printText? welcome.toList
      some ("welcome = ".toList ++ printed ++ ['\n'])

/--
The capacity is looked at first.  Where the welcome cannot be printed the work breaks off, with
neither a document nor a fault.
-/
def encode? (settings : Settings) : Option (Except WriteFault String) :=
  if settings.capacity < savableLimit then do
    let welcome ← welcomeLine? settings.welcome
    some (.ok (String.ofList (headerLine ++ capacityLine settings.capacity ++ welcome)))
  else some (.error .capacityTooGreat)

end Settings
end MessageBoard
