import MessageBoard.Calendar.Month
import MessageBoard.Calendar.Week

/-!
# Local time

An instant is counted in seconds and nanoseconds from the start of 1970 in universal time.  A zone
is so many seconds ahead of universal time, fewer than a day has, and local time is universal time
with these seconds added.
-/

namespace MessageBoard
namespace Calendar

structure Instant where
  seconds : Int
  nanos : Fin 1000000000
  deriving DecidableEq

structure Zone where
  east : Int
  within_day : east.natAbs < 86400
  deriving DecidableEq

namespace Zone

def universal : Zone := ⟨0, by decide⟩

def ahead? (seconds : Int) : Option Zone :=
  if h : seconds.natAbs < 86400 then some ⟨seconds, h⟩ else none

end Zone

/-!
# The calendar's range

Instants can be shown as dates if their date in universal time is in the years from -262143 to
262142.
-/

def firstSecond : Int := yearStart (-262143) * 86400

def lastSecond : Int := yearStart 262143 * 86400 - 1

namespace Instant

def inRange (instant : Instant) : Bool :=
  firstSecond ≤ instant.seconds && instant.seconds ≤ lastSecond

end Instant

/-!
# Local time
-/

structure LocalTime where
  instant : Instant
  zone : Zone

namespace LocalTime

def seconds (t : LocalTime) : Int := t.instant.seconds + t.zone.east

def day (t : LocalTime) : Int := t.seconds / 86400

def secondOfDay (t : LocalTime) : Nat := (t.seconds % 86400).toNat

def hour (t : LocalTime) : Nat := t.secondOfDay / 3600

def minute (t : LocalTime) : Nat := t.secondOfDay / 60 % 60

def second (t : LocalTime) : Nat := t.secondOfDay % 60

def date (t : LocalTime) : Date := dateOf t.day

end LocalTime

end Calendar
end MessageBoard
