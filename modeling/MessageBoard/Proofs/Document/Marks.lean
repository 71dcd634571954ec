import MessageBoard.Document.Printer

/-!
# Marks of a quotation over several lines

Over several lines up to two quotation marks may stand together in a text, and three close it.  Only
their number tells marks of the text from closing marks, so a run of marks is read as a whole.
-/

namespace MessageBoard
namespace Document

theorem runLength_replicate {mark : Char} (n : Nat) {rest : List Char}
    (hrest : rest.head? ≠ some mark) : runLength mark (List.replicate n mark ++ rest) = n := by
  induction n with
  | zero =>
      cases rest with
      | nil => rfl
      | cons c cs =>
          have hne : c ≠ mark := by simpa using hrest
          simp [runLength, hne]
  | succ n ih =>
      simp only [runLength, List.replicate_succ, List.cons_append] at ih ⊢
      rw [List.takeWhile_cons_of_pos (by simp), List.length_cons, ih]

theorem close?_replicate {mark : Char} {n : Nat} (hn : n ≤ 2) {rest : List Char}
    (hrest : rest.head? ≠ some mark) :
    close? true mark (List.replicate (n + 3) mark ++ rest) =
      some (List.replicate n mark, rest) := by
  have hmin : min (n + 3) 5 = n + 3 := Nat.min_eq_left (by omega)
  have hdrop : (List.replicate (n + 3) mark ++ rest).drop (n + 3) = rest :=
    List.drop_left' List.length_replicate
  simp only [close?, closeLines?, if_true, runLength_replicate (n + 3) hrest, hmin, hdrop,
    Nat.add_sub_cancel]
  rw [if_pos (Nat.le_add_left 3 n)]

theorem close?_replicate_eq_none {mark : Char} {n : Nat} (hn : n ≤ 2) {rest : List Char}
    (hrest : rest.head? ≠ some mark) :
    close? true mark (List.replicate n mark ++ rest) = none := by
  simp only [close?, closeLines?, if_true, runLength_replicate n hrest]
  rw [if_neg]
  omega

theorem close?_of_ne {mark c : Char} (hne : c ≠ mark) (lines : Bool) (cs : List Char) :
    close? lines mark (c :: cs) = none := by
  cases lines with
  | false => simp [close?, closeLine?, hne]
  | true => exact close?_replicate_eq_none (Nat.zero_le 2) (by simpa using hne)

/-!
# Runs of marks

Both readers of quotations over several lines do the same at a mark: they stop if it is the first of
the closing marks, and else it belongs to the text.
-/

structure ReadsMarks (mark : Char) (read : List Char → Quotation) : Prop where
  stops : ∀ {c : Char} {cs : List Char} {closed : List Char × List Char},
    close? true mark (c :: cs) = some closed → read (c :: cs) = some closed
  goesOn : ∀ {cs : List Char},
    close? true mark (mark :: cs) = none → read (mark :: cs) = Quotation.emit mark (read cs)

namespace ReadsMarks

variable {mark : Char} {read : List Char → Quotation} {n : Nat} {rest : List Char}

theorem replicate (h : ReadsMarks mark read) (hn : n ≤ 2) {cs content : List Char}
    (hcs : cs.head? ≠ some mark) (hread : read cs = some (content, rest)) :
    read (List.replicate n mark ++ cs) = some (List.replicate n mark ++ content, rest) := by
  induction n with
  | zero => exact hread
  | succ n ih =>
      have hclose := close?_replicate_eq_none hn hcs
      rw [List.replicate_succ, List.cons_append] at hclose ⊢
      rw [h.goesOn hclose, ih (Nat.le_of_succ_le hn)]
      rfl

theorem closing (h : ReadsMarks mark read) (hn : n ≤ 2) (hrest : rest.head? ≠ some mark) :
    read (List.replicate n mark ++ mark :: mark :: mark :: rest) =
      some (List.replicate n mark, rest) := by
  have hsplit : List.replicate n mark ++ List.replicate 3 mark = List.replicate (n + 3) mark :=
    List.replicate_append_replicate
  have hmarks : List.replicate n mark ++ mark :: mark :: mark :: rest =
      mark :: (List.replicate (n + 2) mark ++ rest) := by
    rw [← List.cons_append, ← List.replicate_succ, ← hsplit, List.append_assoc]
    rfl
  rw [hmarks]
  exact h.stops (close?_replicate hn hrest)

end ReadsMarks

end Document
end MessageBoard
