import MessageBoard.Proofs.Document.Marks

/-!
# Quotations in single quotes

Between single quotes a text stands for itself.  Over several lines the marks that came directly
before a character are carried along.
-/

namespace MessageBoard
namespace Document

/-!
# Marks
-/

theorem literal_cons_visible {lines : Bool} {c : Char} {cs : List Char}
    (hclose : close? lines '\'' (c :: cs) = none) (hvisible : isVisible c = true) :
    literal lines (c :: cs) = Quotation.emit c (literal lines cs) := by
  rw [literal, hclose]
  simp [hvisible]

theorem literal_cons_newline (cs : List Char) :
    literal true ('\n' :: cs) = Quotation.emit '\n' (literal true cs) := by
  rw [literal, close?_of_ne (by decide)]
  simp [isVisible]

theorem literal_of_close? {lines : Bool} {c : Char} {cs : List Char}
    {closed : List Char × List Char} (hclose : close? lines '\'' (c :: cs) = some closed) :
    literal lines (c :: cs) = some closed := by
  rw [literal, hclose]

theorem readsMarks_literal : ReadsMarks '\'' (literal true) where
  stops := literal_of_close?
  goesOn := fun hclose => literal_cons_visible hclose (by decide)

/-!
A text without control characters stands for itself between single quotes.
-/

theorem isVisible_of_isControl {c : Char} (hcontrol : isControl c = false) (hline : c ≠ '\n') :
    isVisible c = true := by
  by_cases htab : c = '\t'
  · rw [htab]
    rfl
  · simp only [isControl, htab, hline, ne_eq, not_false_eq_true, decide_true, Bool.and_true,
      Bool.or_eq_false_iff, decide_eq_false_iff_not, Nat.not_lt] at hcontrol
    have hdelete : c.toNat ≠ 0x7f := fun h => hcontrol.2 (Char.toNat_inj.mp h)
    simp only [isVisible, htab, decide_false, Bool.false_or, Bool.or_eq_true, Bool.and_eq_true,
      decide_eq_true_eq]
    omega

theorem longestRunAfter_le_of_cons {mark c : Char} {run limit : Nat} {cs : List Char}
    (h : longestRunAfter mark run (c :: cs) ≤ limit) :
    if c = mark then longestRunAfter mark (run + 1) cs ≤ limit
    else run ≤ limit ∧ longestRunAfter mark 0 cs ≤ limit := by
  rw [longestRunAfter] at h
  by_cases hmark : c = mark
  · rw [if_pos hmark] at h ⊢
    exact h
  · rw [if_neg hmark] at h ⊢
    exact Nat.max_le.mp h

theorem le_longestRunAfter (mark : Char) (run : Nat) (cs : List Char) :
    run ≤ longestRunAfter mark run cs := by
  induction cs generalizing run with
  | nil => exact Nat.le_refl run
  | cons c cs ih =>
      rw [longestRunAfter]
      split
      · exact Nat.le_trans (Nat.le_succ run) (ih (run + 1))
      · exact Nat.le_max_left run _

theorem longestRunAfter_replicate (mark : Char) (run n : Nat) :
    longestRunAfter mark run (List.replicate n mark) = run + n := by
  induction n generalizing run with
  | zero => rfl
  | succ n ih =>
      rw [List.replicate_succ, longestRunAfter, if_pos rfl, ih]
      omega

theorem not_mem_of_longestRun {mark : Char} {cs : List Char} (h : longestRun mark cs = 0) :
    mark ∉ cs := by
  induction cs with
  | nil => exact List.not_mem_nil
  | cons c cs ih =>
      have hcons := longestRunAfter_le_of_cons (Nat.le_of_eq h)
      by_cases hmark : c = mark
      · rw [if_pos hmark] at hcons
        have hone : 1 ≤ longestRunAfter mark (0 + 1) cs := le_longestRunAfter mark 1 cs
        omega
      · rw [if_neg hmark] at hcons
        intro hmem
        rcases List.mem_cons.mp hmem with heq | htail
        · exact hmark heq.symm
        · exact ih (Nat.le_zero.mp hcons.2) htail

theorem literal_line {cs : List Char} (hvisible : ∀ c ∈ cs, isVisible c = true)
    (hmark : '\'' ∉ cs) (rest : List Char) :
    literal false (cs ++ '\'' :: rest) = some (cs, rest) := by
  induction cs with
  | nil => exact literal_of_close? rfl
  | cons c cs ih =>
      have hne : c ≠ '\'' := fun h => hmark (h ▸ List.mem_cons_self)
      rw [List.cons_append, literal_cons_visible (close?_of_ne hne false _)
        (hvisible c List.mem_cons_self),
        ih (fun d hd => hvisible d (List.mem_cons_of_mem c hd))
          (fun h => hmark (List.mem_cons_of_mem c h))]
      rfl

/-- Over several lines, a text with runs of at most two marks, after `run` marks. -/
theorem literal_lines {cs : List Char} {run : Nat}
    (hvisible : ∀ c ∈ cs, c ≠ '\n' → isVisible c = true)
    (hrun : longestRunAfter '\'' run cs ≤ 2) {rest : List Char} (hrest : rest.head? ≠ some '\'') :
    literal true (List.replicate run '\'' ++ (cs ++ '\'' :: '\'' :: '\'' :: rest)) =
      some (List.replicate run '\'' ++ cs, rest) := by
  induction cs generalizing run with
  | nil =>
      rw [List.append_nil]
      exact readsMarks_literal.closing hrun hrest
  | cons c cs ih =>
      have hcons := longestRunAfter_le_of_cons hrun
      have hvisible' : ∀ d ∈ cs, d ≠ '\n' → isVisible d = true :=
        fun d hd => hvisible d (List.mem_cons_of_mem c hd)
      by_cases hmark : c = '\''
      · rw [if_pos hmark] at hcons
        have hread := ih hvisible' hcons
        rw [List.replicate_succ', List.append_assoc, List.append_assoc] at hread
        rw [hmark]
        exact hread
      · rw [if_neg hmark] at hcons
        have htail : literal true (cs ++ '\'' :: '\'' :: '\'' :: rest) = some (cs, rest) :=
          ih hvisible' hcons.2
        refine readsMarks_literal.replicate hcons.1 (by simpa using hmark) ?_
        rw [List.cons_append]
        by_cases hline : c = '\n'
        · rw [hline, literal_cons_newline, htail]
          rfl
        · rw [literal_cons_visible (close?_of_ne hmark true _)
            (hvisible c List.mem_cons_self hline), htail]
          rfl

end Document
end MessageBoard
