import MessageBoard.Calendar.LocalTime
import MessageBoard.Number.Whole

/-!
# Offsets

The offset of a zone is written with its sign, in hours and as much more as the style asks for.
Minutes at the end are rounded, unless the offset is exact: then it has seconds if need be.
-/

namespace MessageBoard
namespace Pattern

open Calendar

inductive OffsetStyle where
  | minutes (colon : Bool)
  | seconds
  | hours
  | exact
  deriving DecidableEq

def OffsetStyle.write (zone : Zone) (style : OffsetStyle) : List Char :=
  let size := zone.east.natAbs
  let sign := if zone.east < 0 then '-' else '+'
  let clock (seconds : Nat) : List Char :=
    twoDigits (seconds / 3600) ++ ':' :: twoDigits (seconds / 60 % 60)
  sign ::
    match style with
    | .minutes true => clock (size + 30)
    | .minutes false =>
        twoDigits ((size + 30) / 3600) ++ twoDigits ((size + 30) / 60 % 60)
    | .seconds => clock size ++ ':' :: twoDigits (size % 60)
    | .hours => twoDigits (size / 3600)
    | .exact => clock size ++ (if size % 60 = 0 then [] else ':' :: twoDigits (size % 60))

end Pattern
end MessageBoard
