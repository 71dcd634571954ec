import MessageBoard.Proofs.Calendar.Dates

/-!
# Instants and clocks

The instants that can be shown are told by the first and the last date that they have in universal
time.  A local time is a day and a clock that starts anew with each day.
-/

namespace MessageBoard
namespace Calendar

/-!
# The calendar's range
-/

def firstDate : Date := ⟨-262143, 1, 1⟩

def lastDate : Date := ⟨262142, 12, 31⟩

/-- From the start of -262143-01-01 to the end of 262142-12-31 in universal time. -/
def Instant.IsDatable (instant : Instant) : Prop :=
  firstDate.number * 86400 ≤ instant.seconds ∧ instant.seconds < (lastDate.number + 1) * 86400

theorem firstSecond_eq : firstSecond = firstDate.number * 86400 := by
  show yearStart (-262143) * 86400 = (newYear (-262143) + (0 : Nat)) * 86400
  rw [newYear_eq_yearStart, Int.natCast_zero, Int.add_zero]

theorem lastSecond_eq : lastSecond = (lastDate.number + 1) * 86400 - 1 := by
  have hvalid : lastDate.IsValid := ⟨by decide, by decide, by decide, by decide⟩
  rw [← Date.number_next hvalid]
  show yearStart 262143 * 86400 - 1 = (newYear 262143 + (0 : Nat)) * 86400 - 1
  rw [newYear_eq_yearStart, Int.natCast_zero, Int.add_zero]

theorem Instant.inRange_iff (instant : Instant) : instant.inRange = true ↔ instant.IsDatable := by
  unfold inRange IsDatable
  rw [Bool.and_eq_true, decide_eq_true_eq, decide_eq_true_eq, firstSecond_eq, lastSecond_eq]
  omega

/-!
# Clocks
-/

namespace LocalTime

variable (t : LocalTime)

theorem day_add_secondOfDay : t.day * 86400 + t.secondOfDay = t.seconds := by
  unfold day secondOfDay
  omega

theorem secondOfDay_lt : t.secondOfDay < 86400 := by
  unfold secondOfDay
  omega

theorem clock_add : t.hour * 3600 + t.minute * 60 + t.second = t.secondOfDay := by
  unfold hour minute second
  omega

theorem hour_lt : t.hour < 24 := by
  have hlt := t.secondOfDay_lt
  unfold hour
  omega

theorem minute_lt : t.minute < 60 := Nat.mod_lt _ (by decide)

theorem second_lt : t.second < 60 := Nat.mod_lt _ (by decide)

end LocalTime

end Calendar
end MessageBoard
