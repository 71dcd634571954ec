import MessageBoard.Proofs.Document.Literal

/-!
# Quotations in double quotes

Between double quotes a text is escaped.  An escape is read as the character it was printed for, so
a text is read back one character at a time; over several lines the raw quotation marks that came
directly before are carried along, of which there are never more than two.
-/

namespace MessageBoard
namespace Document

/-!
# Single characters
-/

section Characters

variable {lines : Bool} {c : Char} {cs : List Char}

theorem basic_of_close? {closed : List Char × List Char}
    (hclose : close? lines '"' (c :: cs) = some closed) :
    basic lines .plain (c :: cs) = some closed := by
  simp [basic, hclose]

theorem basic_backslash (lines : Bool) (cs : List Char) :
    basic lines .plain ('\\' :: cs) = basic lines .escape cs := by
  have hclose : close? lines '"' ('\\' :: cs) = none := close?_of_ne (by decide) lines cs
  simp [basic, hclose]

theorem basic_visible (hclose : close? lines '"' (c :: cs) = none) (hbackslash : c ≠ '\\')
    (hvisible : isVisible c = true) :
    basic lines .plain (c :: cs) = Quotation.emit c (basic lines .plain cs) := by
  simp [basic, hclose, hbackslash, hvisible]

theorem basic_newline (cs : List Char) :
    basic true .plain ('\n' :: cs) = Quotation.emit '\n' (basic true .plain cs) := by
  have hclose : close? true '"' ('\n' :: cs) = none := close?_of_ne (by decide) true cs
  simp [basic, hclose, isVisible]

theorem basic_escape {letter meant : Char} (hmeant : escaped? letter = some meant)
    (cs : List Char) :
    basic lines .plain ('\\' :: letter :: cs) = Quotation.emit meant (basic lines .plain cs) := by
  rw [basic_backslash]
  simp [basic, hmeant]

/-!
# Characters by their code
-/

theorem basic_digit {missing value digit : Nat} (hdigit : hexDigit? c = some digit) :
    basic lines (.digits (missing + 1) value) (c :: cs) =
      basic lines (.digits missing (16 * value + digit)) cs := by
  simp [basic, hdigit]

theorem basic_lastDigit {value digit : Nat} {meant : Char} (hdigit : hexDigit? c = some digit)
    (hmeant : character? (16 * value + digit) = some meant) :
    basic lines (.digits 0 value) (c :: cs) = Quotation.emit meant (basic lines .plain cs) := by
  simp [basic, hdigit, hmeant]

end Characters

theorem hexDigit?_upperHexDigit : ∀ n < 16, hexDigit? (upperHexDigit n) = some n := by
  decide

theorem character?_toNat (c : Char) : character? c.toNat = some c := by
  have hvalid : c.toNat.isValidChar := c.valid
  unfold character?
  rw [dif_pos hvalid]
  exact congrArg some (Char.toNat_inj.mp rfl)

theorem toNat_lt_of_isControl {c : Char} (hcontrol : isControl c = true) : c.toNat < 128 := by
  simp only [isControl, Bool.and_eq_true, Bool.or_eq_true, decide_eq_true_eq] at hcontrol
  rcases hcontrol.1.1 with hlow | hdelete
  · omega
  · rw [hdelete]
    decide

theorem basic_code {lines : Bool} {c : Char} (hc : c.toNat < 128) (cs : List Char) :
    basic lines .plain
        ('\\' :: 'u' :: '0' :: '0' :: upperHexDigit (c.toNat / 16)
          :: upperHexDigit (c.toNat % 16) :: cs) =
      Quotation.emit c (basic lines .plain cs) := by
  have hhigh := hexDigit?_upperHexDigit (c.toNat / 16) (by omega)
  have hlow := hexDigit?_upperHexDigit (c.toNat % 16) (Nat.mod_lt _ (by decide))
  have hzero : hexDigit? '0' = some 0 := by decide
  have hannounced : basic lines .escape
      ('u' :: '0' :: '0' :: upperHexDigit (c.toNat / 16) :: upperHexDigit (c.toNat % 16) :: cs) =
      basic lines (.digits 3 0)
        ('0' :: '0' :: upperHexDigit (c.toNat / 16) :: upperHexDigit (c.toNat % 16) :: cs) := by
    simp [basic, escaped?, announced?]
  rw [basic_backslash, hannounced, basic_digit hzero, basic_digit hzero, basic_digit hhigh]
  apply basic_lastDigit hlow
  have hcode : 16 * (16 * (16 * (16 * 0 + 0) + 0) + c.toNat / 16) + c.toNat % 16 = c.toNat := by
    omega
  rw [hcode]
  exact character?_toNat c

theorem basic_printBasic {c : Char} (hquote : c ≠ '"') (lines : Bool) (cs : List Char) :
    basic lines .plain (printBasic c ++ cs) = Quotation.emit c (basic lines .plain cs) := by
  unfold printBasic
  split
  · exact basic_escape rfl cs
  · exact basic_escape rfl cs
  · exact basic_escape rfl cs
  · exact basic_escape rfl cs
  · exact basic_escape rfl cs
  · exact basic_escape rfl cs
  · rename_i htab hline _ _ hbackslash
    by_cases hcontrol : isControl c = true
    · rw [if_pos hcontrol]
      exact basic_code (toNat_lt_of_isControl hcontrol) cs
    · rw [if_neg hcontrol]
      have hvisible : isVisible c = true :=
        isVisible_of_isControl (by simpa using hcontrol) hline
      exact basic_visible (close?_of_ne hquote lines cs) hbackslash hvisible

/-!
# Whole texts
-/

theorem printLine_cons (c : Char) (cs : List Char) :
    printLine (c :: cs) =
      (if c = '"' then ['\\', '"'] else printBasic c) ++ printLine cs := rfl

theorem basic_printLine (cs rest : List Char) :
    basic false .plain (printLine cs ++ '"' :: rest) = some (cs, rest) := by
  induction cs with
  | nil => exact basic_of_close? rfl
  | cons c cs ih =>
      rw [printLine_cons, List.append_assoc]
      by_cases hquote : c = '"'
      · rw [if_pos hquote, hquote]
        change basic false .plain ('\\' :: '"' :: (printLine cs ++ '"' :: rest)) = _
        rw [basic_escape rfl, ih]
        rfl
      · rw [if_neg hquote, basic_printBasic hquote, ih]
        rfl

theorem readsMarks_basic : ReadsMarks '"' (basic true .plain) where
  stops := basic_of_close?
  goesOn := fun hclose => basic_visible hclose (by decide) (by decide)

theorem head?_printBasic {c d : Char} (hne : c ≠ d) (hbackslash : d ≠ '\\') (cs : List Char) :
    (printBasic c ++ cs).head? ≠ some d := by
  have hhead : (printBasic c ++ cs).head? = some '\\' ∨ (printBasic c ++ cs).head? = some c := by
    unfold printBasic
    split <;> try simp
    split <;> simp
  rcases hhead with h | h
  · rw [h]
    exact fun heq => hbackslash (Option.some.inj heq).symm
  · rw [h]
    exact fun heq => hne (Option.some.inj heq)

/-- A text over several lines is read back from behind `run` raw marks. -/
theorem basic_printLines {run : Nat} (hrun : run ≤ 2) (cs : List Char) {rest : List Char}
    (hrest : rest.head? ≠ some '"') :
    basic true .plain
        (List.replicate run '"' ++ (printLines run cs ++ '"' :: '"' :: '"' :: rest)) =
      some (List.replicate run '"' ++ cs, rest) := by
  induction cs generalizing run with
  | nil =>
      rw [List.append_nil]
      exact readsMarks_basic.closing hrun hrest
  | cons c cs ih =>
      have htail := ih (Nat.zero_le 2)
      rw [List.replicate_zero, List.nil_append, List.nil_append] at htail
      rw [printLines]
      by_cases hquote : c = '"'
      · rw [if_pos hquote, hquote]
        by_cases hfull : run = 2
        · rw [if_pos hfull]
          refine readsMarks_basic.replicate hrun (by simp) ?_
          rw [List.cons_append, List.cons_append, basic_escape rfl, htail]
          rfl
        · rw [if_neg hfull]
          have hread := ih (Nat.lt_of_le_of_ne hrun hfull)
          rw [List.replicate_succ', List.append_assoc, List.append_assoc] at hread
          exact hread
      · rw [if_neg hquote]
        by_cases hline : c = '\n'
        · rw [if_pos hline, hline]
          refine readsMarks_basic.replicate hrun (by simp) ?_
          rw [List.cons_append, basic_newline, htail]
          rfl
        · rw [if_neg hline, List.append_assoc]
          refine readsMarks_basic.replicate hrun (head?_printBasic hquote (by decide) _) ?_
          rw [basic_printBasic hquote, htail]
          rfl

end Document
end MessageBoard
