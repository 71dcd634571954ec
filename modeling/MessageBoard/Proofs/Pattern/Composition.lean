import MessageBoard.Entry
import MessageBoard.Proofs.Calendar.LocalTime
import MessageBoard.Proofs.Pattern.Spelling

/-!
# Patterns piece by piece

Whether a time can be shown in the form of a pattern is a matter of two things that have nothing to
do with each other: the spelling of the pattern and the range of the time.  A pattern put together
from two shows what they show, one after the other.
-/

namespace MessageBoard

open Calendar

namespace Entry

variable {entry : Entry}

theorem timeText?_of_isDatable (h : entry.time.IsDatable) (zone : Zone) (pattern : String) :
    entry.timeText? zone pattern =
      (Pattern.items? pattern).map fun items =>
        String.ofList (Pattern.writeItems ⟨entry.time, zone⟩ items) := by
  unfold timeText? Pattern.format?
  rw [(Instant.inRange_iff entry.time).mpr h]
  cases Pattern.items? pattern <;> rfl

theorem timeText?_of_not_isDatable (h : ¬ entry.time.IsDatable) (zone : Zone) (pattern : String) :
    entry.timeText? zone pattern = none := by
  have hrange : entry.time.inRange = false := by
    rw [Bool.eq_false_iff]
    exact fun hrange => h ((Instant.inRange_iff entry.time).mp hrange)
  unfold timeText? Pattern.format?
  rw [hrange]
  cases Pattern.items? pattern <;> rfl

theorem isDatable_of_timeText? {zone : Zone} {pattern text : String}
    (h : entry.timeText? zone pattern = some text) : entry.time.IsDatable := by
  apply Classical.byContradiction
  intro hnot
  rw [timeText?_of_not_isDatable hnot] at h
  cases h

theorem timeText?_eq_none_iff (h : entry.time.IsDatable) (zone : Zone) (pattern : String) :
    entry.timeText? zone pattern = none ↔ Pattern.items? pattern = none := by
  rw [timeText?_of_isDatable h, Option.map_eq_none_iff]

end Entry

namespace Pattern

/-- A pattern is valid if the time of some entry can be shown in its form. -/
def IsValid (pattern : String) : Prop :=
  ∃ (entry : Entry) (zone : Zone), entry.time.IsDatable ∧ entry.timeText? zone pattern ≠ none

theorem isDatable_epoch : (⟨0, 0⟩ : Instant).IsDatable :=
  (Instant.inRange_iff _).mp (by decide)

theorem isValid_iff (pattern : String) :
    IsValid pattern ↔ ∃ items, items? pattern = some items := by
  rw [← Option.ne_none_iff_exists']
  constructor
  · rintro ⟨entry, zone, hdatable, htext⟩ hnone
    exact htext ((Entry.timeText?_eq_none_iff hdatable zone pattern).mpr hnone)
  · intro hitems
    have hepoch : (⟨default, "", ⟨0, 0⟩⟩ : Entry).time.IsDatable := isDatable_epoch
    refine ⟨⟨default, "", ⟨0, 0⟩⟩, .universal, hepoch, ?_⟩
    rwa [ne_eq, Entry.timeText?_eq_none_iff hepoch]

theorem items?_append {pattern : String} {items : List Item} (h : items? pattern = some items)
    (more : String) : items? (pattern ++ more) = (items? more).map (items ++ ·) := by
  unfold items? at h ⊢
  rw [String.toList_append]
  exact itemsFrom?_append h more.toList

theorem timeText?_append {pattern : String} {items : List Item} (h : items? pattern = some items)
    {entry : Entry} (hdatable : entry.time.IsDatable) (zone : Zone) (more : String) :
    entry.timeText? zone (pattern ++ more) =
      (entry.timeText? zone more).map
        (String.ofList (writeItems ⟨entry.time, zone⟩ items) ++ ·) := by
  rw [Entry.timeText?_of_isDatable hdatable, Entry.timeText?_of_isDatable hdatable,
    items?_append h, Option.map_map, Option.map_map]
  congr 1
  funext items'
  simp [writeItems_append]

/-!
# Validity and composition
-/

/--
What a pattern does by itself and in front of any other.  Whether it can be shown at all does not
depend on the entry.
-/
structure Composes (pattern : String) : Prop where
  uniform : ∀ (entry other : Entry) (zone elsewhere : Zone),
    entry.time.IsDatable → other.time.IsDatable →
      (entry.timeText? zone pattern = none ↔ other.timeText? elsewhere pattern = none)
  spelled : IsValid pattern ↔ ∃ items, Spells pattern.toList items
  append : IsValid pattern → ∀ (more : String) (entry : Entry) (zone : Zone),
    entry.time.IsDatable →
      ∃ text, entry.timeText? zone pattern = some text ∧
        entry.timeText? zone (pattern ++ more) = (entry.timeText? zone more).map (text ++ ·) ∧
        (entry.timeText? zone (pattern ++ more) = none ↔ entry.timeText? zone more = none)
  outside : ∀ (entry : Entry) (zone : Zone), ¬ entry.time.IsDatable →
    entry.timeText? zone pattern = none

theorem composes (pattern : String) : Composes pattern where
  uniform := by
    intro entry other zone elsewhere hdatable hother
    rw [Entry.timeText?_eq_none_iff hdatable, Entry.timeText?_eq_none_iff hother]
  spelled := by
    rw [isValid_iff]
    exact exists_congr fun items => items?_eq_some_iff
  append := by
    intro hvalid more entry zone hdatable
    rcases (isValid_iff pattern).mp hvalid with ⟨items, hitems⟩
    have happend := timeText?_append hitems hdatable zone more
    refine ⟨String.ofList (writeItems ⟨entry.time, zone⟩ items), ?_, happend, ?_⟩
    · rw [Entry.timeText?_of_isDatable hdatable, hitems]
      rfl
    · rw [happend, Option.map_eq_none_iff]
  outside := by
    intro entry zone hnot
    exact Entry.timeText?_of_not_isDatable hnot zone pattern

end Pattern
end MessageBoard
