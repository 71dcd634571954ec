import MessageBoard.Proofs.Pattern.Composition
import MessageBoard.Proofs.Pattern.Reading

/-!
# Entries with their whole time

A date, a clock with all places of the second's fraction and an offset tell the time of an entry and
the zone without any loss.  Whoever reads them back in the calendar gets the same instant and the
same zone, so two entries that look alike have both in common.
-/

namespace MessageBoard
namespace Entry

open Calendar

/-!
# What entries show
-/

/-- What a reader makes of the time of an entry in the form of a pattern, with nothing left over. -/
def Shows {α : Type} (entry : Entry) (zone : Zone) (pattern : String)
    (read : List Char → Option (α × List Char)) (value : α) : Prop :=
  ∃ text, entry.timeText? zone pattern = some text ∧ read text.toList = some (value, [])

theorem shows_of_items {α : Type} {entry : Entry} (h : entry.time.IsDatable) {zone : Zone}
    {pattern : String} {items : List Pattern.Item} (hitems : Pattern.items? pattern = some items)
    {read : List Char → Option (α × List Char)} {value : α}
    (hread : read (Pattern.writeItems ⟨entry.time, zone⟩ items) = some (value, [])) :
    entry.Shows zone pattern read value := by
  refine ⟨String.ofList (Pattern.writeItems ⟨entry.time, zone⟩ items), ?_, ?_⟩
  · rw [timeText?_of_isDatable h, hitems]
    rfl
  · rwa [String.toList_ofList]

/-!
# Stamps
-/

def stampPattern : String := "%Y-%m-%d %H:%M:%S%.9f %::z"

theorem shows_stamp {entry : Entry} (h : entry.time.IsDatable) (zone : Zone) :
    entry.Shows zone stampPattern Pattern.localTime? ⟨entry.time, zone⟩ := by
  have hitems : Pattern.items? stampPattern = some Pattern.wholeTime := rfl
  have hread := Pattern.localTime?_writeItems ⟨entry.time, zone⟩ []
  rw [List.append_nil] at hread
  exact shows_of_items h hitems hread

theorem write_timestamp (seconds : Int) :
    String.ofList ((Pattern.Layout.wide 9).write .none seconds) = toString seconds := by
  cases seconds with
  | ofNat seconds => rfl
  | negSucc seconds =>
      have hnegative : Int.negSucc seconds < 0 := Int.negSucc_lt_zero seconds
      have hsize : (Int.negSucc seconds).natAbs = seconds + 1 := rfl
      show _ = "-" ++ String.ofList (decimal (seconds + 1))
      apply String.toList_inj.mp
      simp [Pattern.Layout.write, Pattern.fill, hnegative, hsize]

theorem timeText?_timestamp {entry : Entry} (h : entry.time.IsDatable) (zone : Zone) :
    entry.timeText? zone "%s" = some (toString entry.time.seconds) := by
  have hitems : Pattern.items? "%s" = some [.number .timestamp .none] := rfl
  rw [timeText?_of_isDatable h, hitems, ← write_timestamp]
  simp [Pattern.writeItems, Pattern.Item.write, Pattern.Quantity.layout, Pattern.Quantity.value]

theorem eq_of_stamp {entry other : Entry} (h : entry.time.IsDatable) {zone elsewhere : Zone}
    (hsame : other.timeText? elsewhere stampPattern = entry.timeText? zone stampPattern) :
    other.time = entry.time ∧ elsewhere = zone := by
  rcases shows_stamp h zone with ⟨text, htext, hread⟩
  rw [htext] at hsame
  rcases shows_stamp (isDatable_of_timeText? hsame) elsewhere with ⟨text', htext', hread'⟩
  -- Both readings are of the same text, so they agree.
  rw [hsame, Option.some.injEq] at htext'
  rw [← htext', hread, Option.some.injEq, Prod.mk.injEq, LocalTime.mk.injEq] at hread'
  exact ⟨hread'.1.1.symm, hread'.1.2.symm⟩

/-- The whole time of an entry can be had back from what it shows. -/
theorem readsBack {entry : Entry} (h : entry.time.IsDatable) (zone : Zone) :
    entry.Shows zone stampPattern Pattern.localTime? ⟨entry.time, zone⟩ ∧
      entry.timeText? zone "%s" = some (toString entry.time.seconds) ∧
      ∀ (other : Entry) (elsewhere : Zone),
        other.timeText? elsewhere stampPattern = entry.timeText? zone stampPattern →
          other.time = entry.time ∧ elsewhere = zone := by
  refine ⟨shows_stamp h zone, timeText?_timestamp h zone, ?_⟩
  intro other elsewhere hsame
  exact eq_of_stamp h hsame

/-!
In the first second of all it is still the year before far to the west of universal time.
-/

def ancient : Entry := ⟨.plain "a", "main", ⟨-8334601228800, ⟨1, by decide⟩⟩⟩

def farWest : Zone := ⟨-86399, by decide⟩

theorem readsBack_ancient :
    ancient.time.IsDatable ∧
      ancient.Shows farWest stampPattern Pattern.localTime? ⟨ancient.time, farWest⟩ ∧
      ancient.timeText? farWest "%s" = some "-8334601228800" ∧
      ∀ (other : Entry) (elsewhere : Zone),
        other.timeText? elsewhere stampPattern = ancient.timeText? farWest stampPattern →
          other.time = ancient.time ∧ elsewhere = farWest := by
  have hdatable : ancient.time.IsDatable := (Instant.inRange_iff _).mp (by decide)
  exact ⟨hdatable, readsBack hdatable farWest⟩

example : ancient.timeText? farWest stampPattern =
    some "-262144-12-31 00:00:01.000000001 -23:59:59" := rfl

end Entry
end MessageBoard
