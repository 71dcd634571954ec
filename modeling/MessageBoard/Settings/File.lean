import MessageBoard.Failure.Cause

/-!
# Settings files

Settings are loaded from a file and saved to one.  What goes wrong is a failure about settings,
unless the work breaks off before there is anything to save.
-/

namespace MessageBoard
namespace Settings

def load (storage : Storage) (path : String) : Except Failure Settings := do
  let text ← (storage.readText path).mapError (Failure.ofCause ∘ .storage)
  (decode text).mapError (Failure.ofCause ∘ .reading)

/-- The document is made before the file is touched, so work that breaks off saves nothing. -/
def save? (settings : Settings) (storage : Storage) (path : String) :
    Option (Except Failure Storage) := do
  let document ← settings.encode?
  some do
    let text ← document.mapError (Failure.ofCause ∘ .writing)
    (storage.write path text.toUTF8).mapError (Failure.ofCause ∘ .storage)

end Settings
end MessageBoard
