import MessageBoard.Proofs.Calendar.Weeks
import MessageBoard.Proofs.Entry.Stamp

/-!
# Entries and their days

A pattern can name the day of an entry by year, month and day, by the year and the day in it, or by
the year of the week, the week in it and the day of the week.  All three name the day that it is in
the zone.
-/

namespace MessageBoard
namespace Entry

open Calendar Document

/-!
# Single quantities
-/

section Shows

variable {entry : Entry} {zone : Zone} {pattern : String} {padding : Pattern.Padding}

theorem shows_number (h : entry.time.IsDatable) (quantity : Pattern.Quantity)
    (hitems : Pattern.items? pattern = some [.number quantity padding]) {places n : Nat}
    (hwrite : quantity.layout.write padding (quantity.value ⟨entry.time, zone⟩) =
      paddedDecimal places n)
    (hplaces : 0 < places) (hn : n < powerOfTen places) :
    entry.Shows zone pattern (fixedDigits? places) n := by
  have hread := fixedDigits?_paddedDecimal hplaces hn []
  apply shows_of_items h hitems
  show fixedDigits? places
    (quantity.layout.write padding (quantity.value ⟨entry.time, zone⟩) ++ []) = some (n, [])
  rwa [hwrite]

theorem shows_year (h : entry.time.IsDatable) (quantity : Pattern.Quantity)
    (hitems : Pattern.items? pattern = some [.number quantity .zero])
    (hlayout : quantity.layout = .year) :
    entry.Shows zone pattern Pattern.year? (quantity.value ⟨entry.time, zone⟩) := by
  apply shows_of_items h hitems
  show Pattern.year? (quantity.layout.write .zero (quantity.value ⟨entry.time, zone⟩) ++ []) = _
  rw [hlayout]
  exact Pattern.year?_write _ (by simp)

end Shows

/-!
# Three notations
-/

def dayIn (entry : Entry) (zone : Zone) : Int := (entry.time.seconds + zone.east) / 86400

section Notations

variable {entry : Entry}

theorem shows_date (h : entry.time.IsDatable) (zone : Zone) :
    entry.Shows zone "%Y-%m-%d" Pattern.date? (dateOf (entry.dayIn zone)) := by
  have hitems : Pattern.items? "%Y-%m-%d" = some Pattern.yearMonthDay := rfl
  have hread := Pattern.date?_dateText (isValid_dateOf (entry.dayIn zone)) []
  apply shows_of_items h hitems
  rw [Pattern.writeItems_yearMonthDay]
  rwa [List.append_nil] at hread

theorem shows_dayOfYear (h : entry.time.IsDatable) (zone : Zone) :
    entry.Shows zone "%j" (fixedDigits? 3) (dayOfYear (entry.dayIn zone) + 1) := by
  have hlt := dayOfYear_lt (entry.dayIn zone)
  have hlength := yearLength_eq (yearOf (entry.dayIn zone))
  have hplaces : dayOfYear (entry.dayIn zone) + 1 < 1000 := by omega
  exact shows_number h .dayOfYear rfl (Pattern.write_wide 3 _) (by decide) hplaces

theorem shows_weekNumber (h : entry.time.IsDatable) (zone : Zone) :
    entry.Shows zone "%V" (fixedDigits? 2) (weekNumber (entry.dayIn zone)) := by
  have hlt := Nat.lt_of_le_of_lt (weekNumber_le (entry.dayIn zone)) (by decide : 53 < 100)
  refine shows_number h .weekNumber rfl ?_ (by decide) hlt
  rw [paddedDecimal_two hlt]
  exact Pattern.write_pair hlt

theorem shows_weekdayFromMonday (h : entry.time.IsDatable) (zone : Zone) :
    entry.Shows zone "%u" (fixedDigits? 1) (weekdayByCount (entry.dayIn zone)) := by
  have hlt := Nat.lt_of_le_of_lt (weekdayByCount_mem (entry.dayIn zone)).2 (by decide : 7 < 10)
  refine shows_number h .weekdayFromMonday rfl ?_ (by decide) hlt
  rw [← weekday_add_one] at hlt ⊢
  exact Pattern.write_single hlt .none

theorem shows_weekdayFromSunday (h : entry.time.IsDatable) (zone : Zone) :
    entry.Shows zone "%w" (fixedDigits? 1) (weekdayByCount (entry.dayIn zone) % 7) := by
  have hlt : weekdayByCount (entry.dayIn zone) % 7 < 10 :=
    Nat.lt_trans (Nat.mod_lt _ (by decide)) (by decide : 7 < 10)
  refine shows_number h .weekdayFromSunday rfl ?_ (by decide) hlt
  rw [← weekdayFromSunday_eq] at hlt ⊢
  exact Pattern.write_single hlt .none

end Notations

/-- What an entry shows when it is asked for a day in one way or another. -/
structure NamesDay (entry : Entry) (zone : Zone) (day : Int) : Prop where
  date : ∃ date : Date, entry.Shows zone "%Y-%m-%d" Pattern.date? date ∧ date.number = day
  dayOfYear : ∃ (year : Int) (number : Nat), entry.Shows zone "%Y" Pattern.year? year ∧
    entry.Shows zone "%j" (fixedDigits? 3) number ∧ 1 ≤ number ∧ number ≤ yearLength year ∧
    newYear year + (number - 1) = day
  week : ∃ (year : Int) (week weekday : Nat), entry.Shows zone "%G" Pattern.year? year ∧
    entry.Shows zone "%V" (fixedDigits? 2) week ∧ entry.Shows zone "%u" (fixedDigits? 1) weekday ∧
    IsWeekDate year week weekday day ∧ week ≤ 53 ∧ (week = 53 → weeksOf year = 53)
  weekday : entry.Shows zone "%u" (fixedDigits? 1) (weekdayByCount day) ∧
    entry.Shows zone "%w" (fixedDigits? 1) (weekdayByCount day % 7)

theorem namesDay {entry : Entry} (h : entry.time.IsDatable) (zone : Zone) :
    entry.NamesDay zone (entry.dayIn zone) where
  date := ⟨_, shows_date h zone, number_dateOf (entry.dayIn zone)⟩
  dayOfYear := by
    have hyear : entry.Shows zone "%Y" Pattern.year? (yearOf (entry.dayIn zone)) :=
      shows_year h .year rfl rfl
    have hday := newYear_add_dayOfYear (entry.dayIn zone)
    refine ⟨_, _, hyear, shows_dayOfYear h zone, Nat.le_add_left 1 _, dayOfYear_lt _, ?_⟩
    omega
  week := by
    have hyear : entry.Shows zone "%G" Pattern.year? (weekYear (entry.dayIn zone)) :=
      shows_year h .weekYear rfl rfl
    refine ⟨_, _, _, hyear, shows_weekNumber h zone, shows_weekdayFromMonday h zone,
      isWeekDate (entry.dayIn zone), weekNumber_le (entry.dayIn zone), ?_⟩
    exact weeksOf_of_weekNumber
  weekday := ⟨shows_weekdayFromMonday h zone, shows_weekdayFromSunday h zone⟩

/-- The day is the one before the first date that there is in universal time. -/
theorem namesDay_ancient : ancient.time.IsDatable ∧ ancient.NamesDay farWest (-96465293) := by
  have hdatable : ancient.time.IsDatable := (Instant.inRange_iff _).mp (by decide)
  exact ⟨hdatable, namesDay hdatable farWest⟩

/-- A Sunday in January that belongs to a week of the year before. -/
example : (⟨.plain "a", "main", ⟨1609632000, 0⟩⟩ : Entry).timeText? .universal
    "%Y-%m-%d is %Y-%j and %G-W%V-%u" = some "2021-01-03 is 2021-003 and 2020-W53-7" := rfl

end Entry
end MessageBoard
