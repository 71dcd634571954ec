import MessageBoard.Proofs.Text.Delimiting

/-!
# Values that look alike on display

A warning and an error show their severity in front of their text, so a plain message can pass for
either by having that word in its own text.  Nothing else can be mistaken: two messages that both
show their severity, or both do not, look alike only if they are equal, and so do two failures.
-/

namespace MessageBoard

open Text

namespace Message

/-- A plain message whose text is all that another message shows, severity included. -/
inductive Mimics : Message → Message → Prop where
  | warning (text : String) : Mimics (plain ("Warning: " ++ text)) ⟨text, .warning⟩
  | error (text : String) : Mimics (plain ("Error: " ++ text)) ⟨text, .error⟩

theorem Mimics.display_eq {m n : Message} (h : Mimics m n) : m.display = n.display := by
  cases h <;> rfl

section Display

variable {m n : Message}

theorem display_of_eq (h : m.severity = .message) : m.display = m.text := by
  unfold display
  rw [h]

theorem display_of_ne (h : m.severity ≠ .message) :
    m.display = m.severity.word ++ ": " ++ m.text := by
  unfold display
  split
  · rename_i hplain
    exact absurd hplain h
  · rfl

theorem eq_of_display (hm : m.severity ≠ .message) (hn : n.severity ≠ .message)
    (h : m.display = n.display) : m = n := by
  rw [display_of_ne hm, display_of_ne hn, String.append_assoc, String.append_assoc] at h
  rcases isSelfDelimiting_severity h with ⟨hseverity, htext⟩
  exact (Message.mk.injEq ..).mpr ⟨(String.append_right_inj _).mp htext, hseverity⟩

theorem mimics_of_display (hm : m.severity = .message) (hn : n.severity ≠ .message)
    (h : m.display = n.display) : Mimics m n := by
  rw [display_of_eq hm, display_of_ne hn] at h
  rcases m with ⟨text, severity⟩
  rcases n with ⟨text', severity'⟩
  cases hm
  cases h
  cases severity' with
  | message => exact absurd rfl hn
  | warning => exact .warning text'
  | error => exact .error text'

theorem eq_or_mimics_of_display (h : m.display = n.display) :
    m = n ∨ Mimics m n ∨ Mimics n m := by
  by_cases hm : m.severity = .message
  · by_cases hn : n.severity = .message
    · rw [display_of_eq hm, display_of_eq hn] at h
      exact .inl ((Message.mk.injEq ..).mpr ⟨h, hm.trans hn.symm⟩)
    · exact .inr (.inl (mimics_of_display hm hn h))
  · by_cases hn : n.severity = .message
    · exact .inr (.inr (mimics_of_display hn hm h.symm))
    · exact .inl (eq_of_display hm hn h)

end Display

end Message

namespace Failure

theorem isSelfDelimiting_label : IsSelfDelimiting fun kind : Kind => kind.word ++ ": " := by
  intro kind kind' rest rest' h
  rw [String.append_assoc, String.append_assoc] at h
  rcases isSelfDelimiting_kind h with ⟨hkind, hrest⟩
  exact ⟨hkind, (String.append_right_inj _).mp hrest⟩

theorem eq_of_display {f g : Failure} (h : f.display = g.display) : f = g :=
  (Failure.mk.injEq ..).mpr (isSelfDelimiting_label h)

end Failure

/-- Which messages look alike on display; failures that do are of one kind and have one text. -/
theorem display_eq_iff :
    (∀ m n : Message, m.display = n.display ↔ m = n ∨ m.Mimics n ∨ n.Mimics m) ∧
    (∀ text text' : String,
      (⟨text, .warning⟩ : Message).display ≠ (⟨text', .error⟩ : Message).display) ∧
    (∀ f g : Failure, f.display = g.display ↔ f.kind = g.kind ∧ f.message = g.message) := by
  refine ⟨?_, ?_, ?_⟩
  · intro m n
    constructor
    · exact Message.eq_or_mimics_of_display
    · rintro (heq | hmimics | hmimics)
      · rw [heq]
      · exact hmimics.display_eq
      · exact hmimics.display_eq.symm
  · intro text text' h
    have hwarning : Severity.warning ≠ .message := by decide
    have herror : Severity.error ≠ .message := by decide
    cases @Message.eq_of_display ⟨text, .warning⟩ ⟨text', .error⟩ hwarning herror h
  · intro f g
    constructor
    · intro h
      rw [Failure.eq_of_display h]
      exact ⟨rfl, rfl⟩
    · rintro ⟨hkind, hmessage⟩
      unfold Failure.display
      rw [hkind, hmessage]

/-- Only the severity in front counts, not one that the text goes on with. -/
example : (⟨"Warning: Low memory", .error⟩ : Message).display =
    (Message.plain "Error: Warning: Low memory").display := rfl

end MessageBoard
