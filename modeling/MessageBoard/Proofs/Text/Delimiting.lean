import Mathlib.Data.List.Basic
import MessageBoard.Failure
import MessageBoard.Message
import MessageBoard.Proofs.Pattern.Reading

/-!
# Notations that end by themselves

A notation is self-delimiting if a text that begins with a value in it shows what the value is and
where it ends, whatever comes after it.  Notations of this kind can be put one after another with
labels between them, and the whole still tells its values apart.
-/

namespace MessageBoard
namespace Text

/-- Texts that begin with a value each are equal only if values and remainders are. -/
def IsSelfDelimiting {α : Type} (write : α → String) : Prop :=
  ∀ {a b : α} {rest rest' : String}, write a ++ rest = write b ++ rest' → a = b ∧ rest = rest'

section SelfDelimiting

variable {α β : Type} {write : α → String} {write' : β → String}

theorem IsSelfDelimiting.eq_iff (h : IsSelfDelimiting write) (a b : α) :
    write a = write b ↔ a = b := by
  constructor
  · intro heq
    have happend : write a ++ "" = write b ++ "" := congrArg (· ++ "") heq
    exact (h happend).1
  · intro heq
    rw [heq]

theorem IsSelfDelimiting.labelled (h : IsSelfDelimiting write) {label rest rest' : String}
    {a b : α} (heq : label ++ (write a ++ rest) = label ++ (write b ++ rest')) :
    a = b ∧ rest = rest' :=
  h ((String.append_right_inj label).mp heq)

theorem IsSelfDelimiting.pair (h : IsSelfDelimiting write) (h' : IsSelfDelimiting write')
    {first second last rest rest' : String} {a b : α} {a' b' : β}
    (heq : first ++ write a ++ second ++ write' a' ++ last ++ rest =
      first ++ write b ++ second ++ write' b' ++ last ++ rest') :
    (a = b ∧ a' = b') ∧ rest = rest' := by
  simp only [String.append_assoc] at heq
  rcases h.labelled heq with ⟨hfirst, heq⟩
  rcases h'.labelled heq with ⟨hsecond, heq⟩
  exact ⟨⟨hfirst, hsecond⟩, (String.append_right_inj last).mp heq⟩

/-!
# Words

Words with different first letters are told apart by these.
-/

theorem head?_eq_of_append_eq {s t rest rest' : String} (hs : s.toList ≠ [])
    (ht : t.toList ≠ []) (h : s ++ rest = t ++ rest') : s.toList.head? = t.toList.head? := by
  have hlist : s.toList ++ rest.toList = t.toList ++ rest'.toList := by
    rw [← String.toList_append, h, String.toList_append]
  have hhead := congrArg List.head? hlist
  rwa [List.head?_append_of_ne_nil _ hs, List.head?_append_of_ne_nil _ ht] at hhead

theorem isSelfDelimiting_of_initials (hne : ∀ a, (write a).toList ≠ [])
    (hinitials : ∀ a b, (write a).toList.head? = (write b).toList.head? → a = b) :
    IsSelfDelimiting write := by
  intro a b rest rest' heq
  have hsame : a = b := hinitials a b (head?_eq_of_append_eq (hne a) (hne b) heq)
  rw [hsame] at heq
  exact ⟨hsame, (String.append_right_inj _).mp heq⟩

end SelfDelimiting

theorem isSelfDelimiting_severity : IsSelfDelimiting Severity.word := by
  apply isSelfDelimiting_of_initials
  · intro severity
    cases severity <;> decide
  · intro severity severity'
    cases severity <;> cases severity' <;> decide

theorem isSelfDelimiting_kind : IsSelfDelimiting Failure.Kind.word := by
  apply isSelfDelimiting_of_initials
  · intro kind
    cases kind <;> decide
  · intro kind kind'
    cases kind <;> cases kind' <;> decide

/-!
# Values that may be missing
-/

section Missing

variable {α : Type} {write : α → String}

/-- A value between brackets, or a word if there is none. -/
def ifPresent (write : α → String) : Option α → String
  | none => "None"
  | some a => "Some(" ++ write a ++ ")"

theorem ifPresent_none : ifPresent write none = "None" := rfl

theorem ifPresent_some (a : α) : ifPresent write (some a) = "Some(" ++ write a ++ ")" := rfl

theorem ifPresent_none_append_ne (a : α) (rest rest' : String) :
    ifPresent write none ++ rest ≠ ifPresent write (some a) ++ rest' := by
  intro heq
  rw [ifPresent_none, ifPresent_some, String.append_assoc, String.append_assoc] at heq
  exact absurd (head?_eq_of_append_eq (by decide) (by decide) heq) (by decide)

theorem IsSelfDelimiting.ifPresent (h : IsSelfDelimiting write) :
    IsSelfDelimiting (ifPresent write) := by
  intro a b rest rest' heq
  cases a with
  | none =>
      cases b with
      | none => exact ⟨rfl, (String.append_right_inj _).mp heq⟩
      | some b => exact absurd heq (ifPresent_none_append_ne b rest rest')
  | some a =>
      cases b with
      | none => exact absurd heq.symm (ifPresent_none_append_ne a rest' rest)
      | some b =>
          rw [ifPresent_some, ifPresent_some] at heq
          simp only [String.append_assoc] at heq
          rcases h.labelled heq with ⟨hvalue, heq⟩
          exact ⟨congrArg some hvalue, (String.append_right_inj _).mp heq⟩

end Missing

/-!
# Numbers

A number does not show where it ends.  It needs a label after it that does not begin with a digit.
-/

section Numbers

variable {m n : Nat} {rest rest' : List Char}

theorem run?_decimal (n : Nat) (hrest : ∀ c ∈ rest.head?, c.isDigit = false) :
    Pattern.run? 0 (decimal n ++ rest) = some (n, rest) := by
  have hplain : paddedDecimal 0 n = decimal n := by simp [paddedDecimal]
  rw [← hplain]
  exact Pattern.run?_paddedDecimal (Nat.le_refl 0) hrest

theorem decimal_append_inj (hrest : ∀ c ∈ rest.head?, c.isDigit = false)
    (hrest' : ∀ c ∈ rest'.head?, c.isDigit = false)
    (h : decimal m ++ rest = decimal n ++ rest') : m = n ∧ rest = rest' := by
  -- Both sides are one text, of which a reader of digits makes one number.
  have hread := run?_decimal m hrest
  rw [h, run?_decimal n hrest', Option.some.injEq, Prod.mk.injEq] at hread
  exact ⟨hread.1.symm, hread.2.symm⟩

theorem head?_decimal_append (n : Nat) (rest : List Char) :
    (decimal n ++ rest).head? ≠ some '-' := by
  have hne : decimal n ≠ [] := Nat.toDigits_ne_nil
  intro hminus
  rw [List.head?_append_of_ne_nil _ hne] at hminus
  have hdigit : Char.isDigit '-' = true := isDigit_of_mem_decimal (List.mem_of_head? hminus)
  exact absurd hdigit (by decide)

theorem signedDecimal_natCast (n : Nat) : signedDecimal n = decimal n := rfl

theorem signedDecimal_append_inj {i j : Int} (hrest : ∀ c ∈ rest.head?, c.isDigit = false)
    (hrest' : ∀ c ∈ rest'.head?, c.isDigit = false)
    (h : signedDecimal i ++ rest = signedDecimal j ++ rest') : i = j ∧ rest = rest' := by
  unfold signedDecimal at h
  by_cases hi : i < 0
  · by_cases hj : j < 0
    · rw [if_pos hi, if_pos hj] at h
      rcases decimal_append_inj hrest hrest' (List.cons.inj h).2 with ⟨hsize, heq⟩
      exact ⟨by omega, heq⟩
    · rw [if_pos hi, if_neg hj] at h
      exact absurd (congrArg List.head? h).symm (head?_decimal_append _ _)
  · by_cases hj : j < 0
    · rw [if_neg hi, if_pos hj] at h
      exact absurd (congrArg List.head? h) (head?_decimal_append _ _)
    · rw [if_neg hi, if_neg hj] at h
      rcases decimal_append_inj hrest hrest' h with ⟨hsize, heq⟩
      exact ⟨by omega, heq⟩

end Numbers

/-- What begins with a character other than a digit shows that a number before it is over. -/
def EndsNumber (label : String) : Prop := ∃ c ∈ label.toList.head?, c.isDigit = false

section Labels

variable {label rest rest' : String}

theorem EndsNumber.head? (h : EndsNumber label) (rest : String) :
    ∀ c ∈ (label ++ rest).toList.head?, c.isDigit = false := by
  rcases h with ⟨c, hc, hdigit⟩
  intro d hd
  rw [String.toList_append, List.head?_append, Option.mem_def.mp hc] at hd
  cases hd
  exact hdigit

theorem split_signedDecimal (hlabel : EndsNumber label) {i j : Int}
    (h : String.ofList (signedDecimal i) ++ (label ++ rest) =
      String.ofList (signedDecimal j) ++ (label ++ rest')) : i = j ∧ rest = rest' := by
  have hlist : signedDecimal i ++ (label ++ rest).toList =
      signedDecimal j ++ (label ++ rest').toList := by
    simpa only [String.toList_append, String.toList_ofList] using congrArg String.toList h
  rcases signedDecimal_append_inj (hlabel.head? rest) (hlabel.head? rest') hlist with ⟨heq, hrest⟩
  exact ⟨heq, (String.append_right_inj label).mp (String.toList_inj.mp hrest)⟩

theorem split_decimal (hlabel : EndsNumber label) {m n : Nat}
    (h : String.ofList (decimal m) ++ (label ++ rest) =
      String.ofList (decimal n) ++ (label ++ rest')) : m = n ∧ rest = rest' := by
  rw [← signedDecimal_natCast, ← signedDecimal_natCast] at h
  rcases split_signedDecimal hlabel h with ⟨heq, hrest⟩
  exact ⟨Int.ofNat.inj heq, hrest⟩

end Labels

end Text
end MessageBoard
