import MessageBoard.Document.Value
import MessageBoard.Proofs.Document.Escape

/-!
# Printed texts

Every text is read back from its printed form, whichever of the four forms it takes.  The reader
tells the forms apart by the first three characters, so an empty text between single marks must not
be followed by a third mark.
-/

namespace MessageBoard
namespace Document

/-!
# Forms that fit

Double quotes fit every text.  A text between single quotes has no control characters, and its runs
of the mark are shorter than the closing marks.
-/

structure Form.Fits (form : Form) (cs : List Char) : Prop where
  isMark : form.mark = '"' ∨ form.mark = '\''
  oneLine : form.lines = false → '\n' ∉ cs
  plain : form.mark = '\'' → ∀ c ∈ cs, isControl c = false
  runs : form.mark = '\'' → longestRun '\'' cs ≤ if form.lines then 2 else 0

theorem fits_double {lines : Bool} {cs : List Char} (hline : lines = false → '\n' ∉ cs) :
    Form.Fits ⟨'"', lines⟩ cs where
  isMark := Or.inl rfl
  oneLine := hline
  plain := fun h => absurd (show '"' = '\'' from h) (by decide)
  runs := fun h => absurd (show '"' = '\'' from h) (by decide)

theorem fits_single {lines : Bool} {cs : List Char} (hline : lines = false → '\n' ∉ cs)
    (hplain : ∀ c ∈ cs, isControl c = false)
    (hruns : longestRun '\'' cs ≤ if lines then 2 else 0) :
    Form.Fits ⟨'\'', lines⟩ cs where
  isMark := Or.inr rfl
  oneLine := hline
  plain := fun _ => hplain
  runs := fun _ => hruns

theorem formFor_fits (cs : List Char) : (formFor cs).Fits cs := by
  simp only [formFor]
  split
  · rename_i h
    apply fits_double
    simp_all
  · split
    · rename_i h
      apply fits_single
      · simp_all
      · simp_all
      · simp_all
    · split
      · apply fits_double
        simp
      · split
        · rename_i h
          apply fits_single
          · simp
          · simp_all
          · simp_all
        · apply fits_double
          simp

/-!
# Opening marks
-/

theorem quotation?_line {mark : Char} {cs : List Char} (h : cs.take 2 ≠ [mark, mark]) :
    quotation? (mark :: cs) = lineQuotation? (mark :: cs) := by
  unfold quotation?
  split <;> simp_all

theorem take_two_ne {mark : Char} {content rest : List Char} (hcontent : content.head? ≠ some mark)
    (hrest : rest.head? ≠ some mark) : (content ++ mark :: rest).take 2 ≠ [mark, mark] := by
  cases content with
  | nil =>
      cases rest with
      | nil => simp
      | cons c cs => simpa using hrest
  | cons c cs =>
      intro h
      apply hcontent
      simp_all

def Form.opening (cs : List Char) : List Char := if cs.contains '\n' then ['\n'] else []

theorem afterOpening_of_head? {cs : List Char} (hline : cs.head? ≠ some '\n')
    (hreturn : cs.head? ≠ some '\r') : afterOpening cs = cs := by
  cases cs with
  | nil => rfl
  | cons c cs =>
      have hc : c ≠ '\n' := by simpa using hline
      have hc' : c ≠ '\r' := by simpa using hreturn
      simp [afterOpening, lineBreak?, hc, hc']

theorem afterOpening_opening {cs content : List Char}
    (hcontent : '\n' ∉ cs → content.head? ≠ some '\n' ∧ content.head? ≠ some '\r') :
    afterOpening (Form.opening cs ++ content) = content := by
  unfold Form.opening
  by_cases hline : '\n' ∈ cs
  · simp [hline, afterOpening, lineBreak?]
  · have hhead := hcontent hline
    simp only [List.contains_eq_mem, hline, decide_false, Bool.false_eq_true, if_false,
      List.nil_append]
    exact afterOpening_of_head? hhead.1 hhead.2

/-!
# Each form
-/

section Forms

variable {cs rest : List Char}

theorem head?_printLine_ne (cs : List Char) : (printLine cs).head? ≠ some '"' := by
  cases cs with
  | nil => simp [printLine]
  | cons c cs =>
      rw [printLine_cons]
      by_cases hquote : c = '"'
      · rw [if_pos hquote]
        simp
      · rw [if_neg hquote]
        exact head?_printBasic hquote (by decide) _

theorem quotation?_doubleLine (cs : List Char) (hrest : rest.head? ≠ some '"') :
    quotation? ('"' :: (printLine cs ++ '"' :: rest)) = some (cs, rest) := by
  rw [quotation?_line (take_two_ne (head?_printLine_ne cs) hrest)]
  exact basic_printLine cs rest

theorem quotation?_singleLine (hvisible : ∀ c ∈ cs, isVisible c = true) (hmark : '\'' ∉ cs)
    (hrest : rest.head? ≠ some '\'') :
    quotation? ('\'' :: (cs ++ '\'' :: rest)) = some (cs, rest) := by
  have hhead : cs.head? ≠ some '\'' := fun h => hmark (List.mem_of_mem_head? h)
  rw [quotation?_line (take_two_ne hhead hrest)]
  exact literal_line hvisible hmark rest

theorem head?_printLines_ne (hline : '\n' ∉ cs) (marks : List Char) {d : Char}
    (hd : d = '\n' ∨ d = '\r') :
    (printLines 0 cs ++ '"' :: marks).head? ≠ some d := by
  have hquote : '"' ≠ d := by
    rcases hd with rfl | rfl <;> decide
  have hbackslash : d ≠ '\\' := by
    rcases hd with rfl | rfl <;> decide
  cases cs with
  | nil => simpa [printLines] using hquote
  | cons c cs =>
      have hc : c ≠ '\n' := fun h => hline (h ▸ List.mem_cons_self)
      rw [printLines]
      by_cases hmark : c = '"'
      · rw [if_pos hmark, if_neg (by decide)]
        simpa using hquote
      · rw [if_neg hmark, if_neg hc, List.append_assoc]
        by_cases hreturn : c = '\r'
        · rw [hreturn]
          simpa [printBasic] using hbackslash.symm
        · apply head?_printBasic _ hbackslash
          rcases hd with rfl | rfl
          · exact hc
          · exact hreturn

theorem quotation?_doubleLines (cs : List Char) (hrest : rest.head? ≠ some '"') :
    quotation? ('"' :: '"' :: '"' ::
        (Form.opening cs ++ (printLines 0 cs ++ '"' :: '"' :: '"' :: rest))) =
      some (cs, rest) := by
  show basic true .plain (afterOpening _) = _
  rw [afterOpening_opening fun hline =>
    ⟨head?_printLines_ne hline _ (Or.inl rfl), head?_printLines_ne hline _ (Or.inr rfl)⟩]
  exact basic_printLines (Nat.zero_le 2) cs hrest

theorem quotation?_singleLines (hplain : ∀ c ∈ cs, isControl c = false)
    (hruns : longestRun '\'' cs ≤ 2) (hrest : rest.head? ≠ some '\'') :
    quotation? ('\'' :: '\'' :: '\'' ::
        (Form.opening cs ++ (cs ++ '\'' :: '\'' :: '\'' :: rest))) =
      some (cs, rest) := by
  have hhead : ∀ d, d ∉ cs → d ≠ '\'' →
      (cs ++ '\'' :: '\'' :: '\'' :: rest).head? ≠ some d := by
    intro d hd hquote
    cases cs with
    | nil => simpa using hquote.symm
    | cons c cs =>
        intro h
        have hc : c = d := by simpa using h
        exact hd (hc ▸ List.mem_cons_self)
  have hreturn : '\r' ∉ cs := fun h => absurd (hplain '\r' h) (by decide)
  have hvisible : ∀ c ∈ cs, c ≠ '\n' → isVisible c = true :=
    fun c hc => isVisible_of_isControl (hplain c hc)
  have hruns' : longestRunAfter '\'' 0 cs ≤ 2 := hruns
  show literal true (afterOpening _) = _
  rw [afterOpening_opening fun hline =>
    ⟨hhead '\n' hline (by decide), hhead '\r' hreturn (by decide)⟩]
  exact literal_lines hvisible hruns' hrest

end Forms

/-!
# All four forms
-/

/-- A text is read back from every form that fits it, unless a quotation mark comes next. -/
theorem Form.Fits.quotation?_append {form : Form} {cs rest : List Char} (h : form.Fits cs)
    (hdouble : rest.head? ≠ some '"') (hsingle : rest.head? ≠ some '\'') :
    quotation? (form.marks ++ Form.opening cs ++ form.content cs ++ form.marks ++ rest) =
      some (cs, rest) := by
  have hopening : form.lines = false → Form.opening cs = [] := by
    intro hline
    simp [Form.opening, h.oneLine hline]
  rcases form with ⟨mark, lines⟩
  rcases h.isMark with hmark | hmark
  · have hform : mark = '"' := hmark
    subst hform
    cases lines with
    | false =>
        have hread := quotation?_doubleLine cs hdouble
        rw [hopening rfl]
        simpa [Form.marks, Form.content] using hread
    | true =>
        have hread := quotation?_doubleLines cs hdouble
        simpa [Form.marks, Form.content, List.replicate_succ] using hread
  · have hform : mark = '\'' := hmark
    subst hform
    have hplain := h.plain rfl
    have hruns := h.runs rfl
    cases lines with
    | false =>
        have hline : '\n' ∉ cs := h.oneLine rfl
        have hvisible : ∀ c ∈ cs, isVisible c = true := fun c hc =>
          isVisible_of_isControl (hplain c hc) fun heq => hline (heq ▸ hc)
        have habsent : '\'' ∉ cs := not_mem_of_longestRun (Nat.le_zero.mp hruns)
        have hread := quotation?_singleLine hvisible habsent hsingle
        rw [hopening rfl]
        simpa [Form.marks, Form.content] using hread
    | true =>
        have hread := quotation?_singleLines hplain hruns hsingle
        simpa [Form.marks, Form.content, List.replicate_succ] using hread

theorem quotation?_printText {cs rest : List Char} (hdouble : rest.head? ≠ some '"')
    (hsingle : rest.head? ≠ some '\'') :
    quotation? (printText cs ++ rest) = some (cs, rest) :=
  (formFor_fits cs).quotation?_append hdouble hsingle

theorem Form.marks_eq_cons (form : Form) : ∃ tail, form.marks = form.mark :: tail := by
  rcases form with ⟨mark, lines⟩
  cases lines <;> exact ⟨_, rfl⟩

theorem printText_eq_cons (cs : List Char) :
    ∃ mark tail, printText cs = mark :: tail ∧ (mark = '"' ∨ mark = '\'') := by
  rcases (formFor cs).marks_eq_cons with ⟨tail, htail⟩
  have htext : printText cs = (formFor cs).mark :: (tail ++ Form.opening cs ++
      (formFor cs).content cs ++ (formFor cs).mark :: tail) := by
    show (formFor cs).marks ++ Form.opening cs ++ (formFor cs).content cs ++ (formFor cs).marks = _
    rw [htail]
    rfl
  exact ⟨_, _, htext, (formFor_fits cs).isMark⟩

theorem skipBlanks_printText (cs rest : List Char) :
    skipBlanks (printText cs ++ rest) = printText cs ++ rest := by
  rcases printText_eq_cons cs with ⟨mark, tail, htext, hmark⟩
  rw [htext]
  apply skipBlanks_cons_of_not_blank
  rcases hmark with rfl | rfl <;> decide

theorem node?_printText (cs rest : List Char) :
    node? (printText cs ++ '\n' :: rest) =
      some (.text ⟨printText cs ++ '\n' :: rest, '\n' :: rest⟩ (String.ofList cs),
        '\n' :: rest) := by
  have hread : quotation? (printText cs ++ '\n' :: rest) = some (cs, '\n' :: rest) :=
    quotation?_printText (by simp) (by simp)
  rcases printText_eq_cons cs with ⟨mark, tail, htext, hmark⟩
  rw [htext] at hread ⊢
  rw [List.cons_append] at hread ⊢
  unfold node? nodeWithin?
  simp [hmark, textNode?, hread]

end Document
end MessageBoard
