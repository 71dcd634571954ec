import MessageBoard.Proofs.Document.Decimal
import MessageBoard.Proofs.Document.Escape
import MessageBoard.Proofs.Text.Delimiting

/-!
# Quoted text without loss

A character between quotation marks is written as a letter behind a backslash, by its code or as it
is.  Whichever of these is chosen for it, it is read as itself, and it never begins with a quotation
mark.  So the first mark that is no part of an escape ends the quotation, and a quoted text tells
the text and where it ends.
-/

namespace MessageBoard
namespace Text

inductive Spells (c : Char) : List Char → Prop where
  | letter {letter : Char} (h : shortEscape? c = some letter) : Spells c ['\\', letter]
  | code : Spells c ('\\' :: 'u' :: '\x7b' :: Nat.toDigits 16 c.toNat ++ ['\x7d'])
  | verbatim (h : shortEscape? c = none) : Spells c [c]

theorem spells_escape (c : Char) : Spells c (escape c) := by
  unfold escape
  split
  · rename_i letter hletter
    exact .letter hletter
  · rename_i hnone
    split
    · exact .code
    · exact .verbatim hnone

/-!
# Reading
-/

/-- The character that a letter stands for behind a backslash. -/
def meant? (letter : Char) : Option Char :=
  match letter with
  | '"' => some '"'
  | '\\' => some '\\'
  | 't' => some '\t'
  | 'n' => some '\n'
  | 'r' => some '\r'
  | '0' => some '\x00'
  | _ => none

def unescape? : List Char → Option (Char × List Char)
  | '\\' :: 'u' :: '\x7b' :: cs => do
      let digits := cs.takeWhile (· != '\x7d')
      let c ← Document.character? (Document.valueOf 16 digits)
      some (c, cs.drop (digits.length + 1))
  | '\\' :: letter :: cs => do
      let c ← meant? letter
      some (c, cs)
  | c :: cs => some (c, cs)
  | [] => none

theorem ne_brace_of_mem_toDigits {n : Nat} {c : Char} (h : c ∈ Nat.toDigits 16 n) :
    c ≠ '\x7d' := by
  have hdigit : ∀ d < 16, Nat.digitChar d ≠ '\x7d' := by decide
  induction n using Nat.strongRecOn with
  | ind n ih =>
      by_cases hn : n < 16
      · rw [Nat.toDigits_of_lt_base hn, List.mem_singleton] at h
        rw [h]
        exact hdigit n hn
      · rw [Nat.toDigits_of_base_le (by decide) (Nat.le_of_not_lt hn), List.mem_append,
          List.mem_singleton] at h
        rcases h with hinit | hlast
        · exact ih (n / 16) (by omega) hinit
        · rw [hlast]
          exact hdigit (n % 16) (Nat.mod_lt n (by decide))

theorem unescape?_code (c : Char) (rest : List Char) :
    unescape? ('\\' :: 'u' :: '\x7b' :: (Nat.toDigits 16 c.toNat ++ '\x7d' :: rest)) =
      some (c, rest) := by
  have hdigits : (Nat.toDigits 16 c.toNat ++ '\x7d' :: rest).takeWhile (· != '\x7d') =
      Nat.toDigits 16 c.toNat := by
    rw [List.takeWhile_append_of_pos fun d hd => bne_iff_ne.mpr (ne_brace_of_mem_toDigits hd)]
    simp
  have hvalue := Document.valueOf_toDigits (by decide : 1 < 16) (Nat.le_refl 16) c.toNat
  simp only [unescape?, hdigits, hvalue, Document.character?_toNat]
  simp

section Spelling

variable {c d : Char} {cs ds rest rest' : List Char}

theorem unescape?_of_spells (h : Spells c cs) (rest : List Char) :
    unescape? (cs ++ rest) = some (c, rest) := by
  cases h with
  | letter h =>
      -- One case for each of the six characters that have a letter.
      unfold shortEscape? at h
      split at h <;> cases h <;> rfl
  | code =>
      have hread := unescape?_code c rest
      simpa using hread
  | verbatim h =>
      have hbackslash : c ≠ '\\' := by
        rintro rfl
        cases h
      simp [unescape?, hbackslash]

theorem Spells.head?_append_ne (h : Spells c cs) (rest : List Char) :
    (cs ++ rest).head? ≠ some '"' := by
  cases h with
  | letter h => simp
  | code => simp
  | verbatim h =>
      have hquote : c ≠ '"' := by
        rintro rfl
        cases h
      simp [hquote]

theorem Spells.append_inj (hc : Spells c cs) (hd : Spells d ds) (h : cs ++ rest = ds ++ rest') :
    c = d ∧ rest = rest' := by
  have hread := unescape?_of_spells hc rest
  rw [h, unescape?_of_spells hd rest', Option.some.injEq, Prod.mk.injEq] at hread
  exact ⟨hread.1.symm, hread.2.symm⟩

/-!
# Whole texts
-/

/-- The mark that ends a quotation cannot be taken for the beginning of one more character. -/
theorem escapeAll_append_inj
    (h : escapeAll cs ++ '"' :: rest = escapeAll ds ++ '"' :: rest') : cs = ds ∧ rest = rest' := by
  induction cs generalizing ds with
  | nil =>
      cases ds with
      | nil => exact ⟨rfl, (List.cons.inj h).2⟩
      | cons d ds =>
          rw [escapeAll_cons, List.append_assoc] at h
          exact absurd (congrArg List.head? h).symm ((spells_escape d).head?_append_ne _)
  | cons c cs ih =>
      rw [escapeAll_cons, List.append_assoc] at h
      cases ds with
      | nil => exact absurd (congrArg List.head? h) ((spells_escape c).head?_append_ne _)
      | cons d ds =>
          rw [escapeAll_cons, List.append_assoc] at h
          rcases (spells_escape c).append_inj (spells_escape d) h with ⟨hchar, htail⟩
          rcases ih htail with ⟨htext, hrest⟩
          exact ⟨by rw [hchar, htext], hrest⟩

end Spelling

theorem isSelfDelimiting_quoted : IsSelfDelimiting quoted := by
  intro s t rest rest' h
  unfold quoted at h
  simp only [String.append_assoc] at h
  have hlist := congrArg String.toList ((String.append_right_inj _).mp h)
  simp only [String.toList_append, String.toList_ofList] at hlist
  rcases escapeAll_append_inj hlist with ⟨htext, hrest⟩
  exact ⟨String.toList_inj.mp htext, String.toList_inj.mp hrest⟩

/-- A quoted text can be quoted once more. -/
example : quoted (quoted "a\n") = "\"\\\"a\\\\n\\\"\"" := by decide

end Text
end MessageBoard
