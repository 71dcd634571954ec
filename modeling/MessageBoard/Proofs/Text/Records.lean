import MessageBoard.Entry
import MessageBoard.Proofs.Text.Quoted
import MessageBoard.Settings

/-!
# Records in full

The notation of a record gives each field behind its label.  Fields are quoted texts, words, numbers
or records themselves, and all of these show where they end, so what a text looks like can never be
taken for the fields after it.  Two values that look alike in this notation are equal.
-/

namespace MessageBoard

open Text

/-!
# Messages and failures

These have two fields each, a quoted text and a word, between three labels.
-/

theorem Message.isSelfDelimiting_described : IsSelfDelimiting Message.described := by
  intro m n rest rest' h
  rcases isSelfDelimiting_quoted.pair isSelfDelimiting_severity h with ⟨hfields, hrest⟩
  exact ⟨(Message.mk.injEq ..).mpr hfields, hrest⟩

theorem Message.isSelfDelimiting_describedOnLines : IsSelfDelimiting Message.describedOnLines := by
  intro m n rest rest' h
  rcases isSelfDelimiting_quoted.pair isSelfDelimiting_severity h with ⟨hfields, hrest⟩
  exact ⟨(Message.mk.injEq ..).mpr hfields, hrest⟩

theorem Failure.isSelfDelimiting_described : IsSelfDelimiting Failure.described := by
  intro f g rest rest' h
  rcases isSelfDelimiting_quoted.pair isSelfDelimiting_kind h with ⟨hfields, hrest⟩
  exact ⟨(Failure.mk.injEq ..).mpr hfields.symm, hrest⟩

/-!
# Entries

The time of an entry is a record too, with a number in each of its fields.
-/

theorem Entry.isSelfDelimiting_described : IsSelfDelimiting Entry.described := by
  intro e f rest rest' h
  unfold described at h
  simp only [String.append_assoc] at h
  rcases Message.isSelfDelimiting_described.labelled h with ⟨hmessage, h⟩
  rcases isSelfDelimiting_quoted.labelled h with ⟨hsource, h⟩
  -- A number ends where the label after it begins with a comma or a blank.
  have hseconds := split_signedDecimal ⟨',', rfl, rfl⟩ ((String.append_right_inj _).mp h)
  have hnanos := split_decimal ⟨' ', rfl, rfl⟩ hseconds.2
  have htime : e.time = f.time :=
    (Calendar.Instant.mk.injEq ..).mpr ⟨hseconds.1, Fin.ext hnanos.1⟩
  exact ⟨(Entry.mk.injEq ..).mpr ⟨hmessage, hsource, htime⟩, hnanos.2⟩

/-!
# Settings
-/

theorem Settings.described_eq (settings : Settings) :
    settings.described =
      "Config \x7b messenger: MessengerConfig \x7b capacity: "
        ++ String.ofList (decimal settings.capacity.toNat) ++ ", welcome: "
        ++ ifPresent quoted settings.welcome ++ " \x7d \x7d" := by
  unfold described
  cases settings.welcome <;> rfl

theorem Settings.isSelfDelimiting_described : IsSelfDelimiting Settings.described := by
  intro s t rest rest' h
  rw [described_eq, described_eq] at h
  simp only [String.append_assoc] at h
  have hcapacity := split_decimal ⟨',', rfl, rfl⟩ ((String.append_right_inj _).mp h)
  rcases isSelfDelimiting_quoted.ifPresent hcapacity.2 with ⟨hwelcome, h⟩
  have hsame : s = t :=
    (Settings.mk.injEq ..).mpr ⟨UInt64.toNat_inj.mp hcapacity.1, hwelcome⟩
  exact ⟨hsame, (String.append_right_inj _).mp h⟩

/-!
# Equal notations
-/

/-- Messages, failures, entries and settings look alike in full only if they are equal. -/
theorem described_eq_iff :
    (∀ m n : Message, m.described = n.described ↔ m = n) ∧
    (∀ m n : Message, m.describedOnLines = n.describedOnLines ↔ m = n) ∧
    (∀ f g : Failure, f.described = g.described ↔ f.kind = g.kind ∧ f.message = g.message) ∧
    (∀ e f : Entry, e.described = f.described ↔ e.message = f.message ∧ e.source = f.source ∧
      e.time.seconds = f.time.seconds ∧ e.time.nanos = f.time.nanos) ∧
    (∀ s t : Settings, s.described = t.described ↔ s = t) := by
  refine ⟨Message.isSelfDelimiting_described.eq_iff,
    Message.isSelfDelimiting_describedOnLines.eq_iff, ?_, ?_,
    Settings.isSelfDelimiting_described.eq_iff⟩
  · intro f g
    rw [Failure.isSelfDelimiting_described.eq_iff]
    cases f
    cases g
    rw [Failure.mk.injEq]
  · intro e f
    rw [Entry.isSelfDelimiting_described.eq_iff]
    rcases e with ⟨message, source, ⟨seconds, nanos⟩⟩
    rcases f with ⟨message', source', ⟨seconds', nanos'⟩⟩
    rw [Entry.mk.injEq, Calendar.Instant.mk.injEq]

/-- A text that looks like the rest of its message. -/
example : (⟨"\", kind: Error \x7d", .warning⟩ : Message).described =
    "Message \x7b text: \"\\\", kind: Error \x7d\", kind: Warning \x7d" := by decide

end MessageBoard
