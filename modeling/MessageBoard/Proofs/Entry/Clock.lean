import MessageBoard.Proofs.Pattern.Composition
import MessageBoard.Proofs.Pattern.Reading

/-!
# Entries on display

An entry on display begins with the clock of its local time in brackets.  That takes eleven
characters for every time that can be shown, and what follows is the entry without its time.
-/

namespace MessageBoard
namespace Entry

open Calendar

def bracketed (hour minute second : Nat) : String :=
  String.ofList ('[' :: twoDigits hour ++ ':' :: twoDigits minute ++ ':' :: twoDigits second
    ++ [']', ' '])

theorem length_bracketed (hour minute second : Nat) :
    (bracketed hour minute second).length = 11 := by
  unfold bracketed
  rw [String.length_ofList]
  rfl

theorem timeText?_timePattern {entry : Entry} (h : entry.time.IsDatable) (zone : Zone) :
    entry.timeText? zone timePattern =
      some (String.ofList
        (Pattern.clockText (LocalTime.secondOfDay ⟨entry.time, zone⟩))) := by
  have hitems : Pattern.items? timePattern = some Pattern.clock := rfl
  rw [timeText?_of_isDatable h, hitems, Option.map_some, Pattern.writeItems_clock]

theorem display?_of_isDatable {entry : Entry} (h : entry.time.IsDatable) (zone : Zone) :
    entry.display? zone =
      some (bracketed (LocalTime.hour ⟨entry.time, zone⟩) (LocalTime.minute ⟨entry.time, zone⟩)
          (LocalTime.second ⟨entry.time, zone⟩)
        ++ entry.source ++ ": " ++ entry.message.display) := by
  unfold display?
  rw [timeText?_timePattern h, Option.map_some, Option.some.injEq]
  apply String.toList_inj.mp
  simp [bracketed, body, Pattern.clockText, LocalTime.hour, LocalTime.minute, LocalTime.second]

theorem display?_of_not_isDatable {entry : Entry} (h : ¬ entry.time.IsDatable) (zone : Zone) :
    entry.display? zone = none := by
  unfold display?
  rw [timeText?_of_not_isDatable h]
  rfl

/-- What an entry looks like in a zone, if it can be shown at all. -/
structure IsOnDisplay (entry : Entry) (zone : Zone) : Prop where
  clock : entry.time.IsDatable →
    ∃ hour minute second : Nat, hour < 24 ∧ minute < 60 ∧ second < 60 ∧
      (hour * 3600 + minute * 60 + second : Int) = (entry.time.seconds + zone.east) % 86400 ∧
      (bracketed hour minute second).length = 11 ∧
      entry.display? zone =
        some (bracketed hour minute second ++ entry.source ++ ": " ++ entry.message.display)
  nanos : ∀ nanos, { entry with time := ⟨entry.time.seconds, nanos⟩ : Entry }.display? zone =
    entry.display? zone
  outside : ¬ entry.time.IsDatable → entry.display? zone = none

/-- Whatever the year, an entry is shown behind its clock, and without a date it is not shown. -/
theorem isOnDisplay (entry : Entry) (zone : Zone) : entry.IsOnDisplay zone where
  clock := by
    intro hdatable
    have hclock := LocalTime.clock_add ⟨entry.time, zone⟩
    have hsecond : (LocalTime.secondOfDay ⟨entry.time, zone⟩ : Int) =
        (entry.time.seconds + zone.east) % 86400 :=
      Int.toNat_of_nonneg (Int.emod_nonneg _ (by decide))
    refine ⟨_, _, _, LocalTime.hour_lt ⟨entry.time, zone⟩, LocalTime.minute_lt ⟨entry.time, zone⟩,
      LocalTime.second_lt ⟨entry.time, zone⟩, ?_, length_bracketed _ _ _,
      display?_of_isDatable hdatable zone⟩
    omega
  nanos := by
    intro nanos
    -- The range asks for the seconds alone, so both times are in it or neither is.
    rcases Classical.em entry.time.IsDatable with hdatable | hnot
    · have hother := @display?_of_isDatable
        { entry with time := ⟨entry.time.seconds, nanos⟩ } hdatable zone
      exact hother.trans (display?_of_isDatable hdatable zone).symm
    · have hother := @display?_of_not_isDatable
        { entry with time := ⟨entry.time.seconds, nanos⟩ } hnot zone
      exact hother.trans (display?_of_not_isDatable hnot zone).symm
  outside := fun hnot => display?_of_not_isDatable hnot zone

/-- The last nanosecond before 1970 is at the end of a day. -/
example : (⟨⟨"Low memory", .warning⟩, "Renderer", ⟨-1, 999999999⟩⟩ : Entry).display? .universal =
    some "[23:59:59] Renderer: Warning: Low memory" := rfl

end Entry
end MessageBoard
