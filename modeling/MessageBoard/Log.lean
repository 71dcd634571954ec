import MessageBoard.Entry
import MessageBoard.Settings

/-!
# Logs

A log keeps the latest entries, in the order in which they came and never more than its capacity.
An entry that finds the log full pushes the oldest out.
-/

namespace MessageBoard

/-- Takes entries off the front until there are no more than the capacity. -/
def evict (capacity : Nat) : List Entry → List Entry
  | [] => []
  | entry :: entries =>
      if capacity < entries.length + 1 then evict capacity entries else entry :: entries

theorem length_evict_le (capacity : Nat) (entries : List Entry) :
    (evict capacity entries).length ≤ capacity := by
  induction entries with
  | nil => exact Nat.zero_le capacity
  | cons entry entries ih =>
      rw [evict]
      split
      · exact ih
      · rename_i hroom
        exact Nat.le_of_not_lt hroom

structure Log where
  capacity : Nat
  entries : List Entry
  length_le : entries.length ≤ capacity
  deriving DecidableEq

namespace Log

def empty (capacity : Nat) : Log := ⟨capacity, [], Nat.zero_le capacity⟩

def add (log : Log) (entry : Entry) : Log where
  capacity := log.capacity
  entries := evict log.capacity (log.entries ++ [entry])
  length_le := length_evict_le log.capacity _

def clear (log : Log) : Log := empty log.capacity

/-- A new log, with the welcome as its first entry if there is one. -/
def ofSettings (settings : Settings) (caller : Caller) : Log :=
  let log := empty settings.capacity.toNat
  match settings.welcome with
  | none => log
  | some text => log.add (.ofCaller (.plain text) caller)

/-!
# Looking into a log
-/

def last? (log : Log) : Option Entry := log.entries.getLast?

def size (log : Log) : Nat := log.entries.length

def isEmpty (log : Log) : Bool := log.entries.isEmpty

def count (log : Log) (severity : Severity) : Nat :=
  log.entries.countP fun entry => entry.message.severity = severity

/-- The sources of the entries, each once, in alphabetical order of code points. -/
def sources (log : Log) : List String :=
  (log.entries.map (·.source)).eraseDups.mergeSort fun a b => decide (a ≤ b)

/-- The entries of each source, in the order of the log. -/
def bySource (log : Log) : List (String × List Entry) :=
  log.sources.map fun source => (source, log.entries.filter (·.source = source))

end Log

end MessageBoard
