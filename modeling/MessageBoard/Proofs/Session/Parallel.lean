import MessageBoard.Proofs.Session.Frame

/-!
# Sessions side by side

Two sessions whose handles lead to boards of the same numbers can be compared board by board.  What
is known of two boards with the same number is a relation, which may depend on the number; a step
keeps the comparison if it keeps the relation where it sets or adds a board.
-/

namespace MessageBoard

theorem getElem?_concat_cases {α : Type} {xs : List α} {x y : α} {i : Nat}
    (h : (xs ++ [x])[i]? = some y) : xs[i]? = some y ∨ i = xs.length ∧ y = x := by
  rw [List.getElem?_append] at h
  split at h
  · exact Or.inl h
  · rw [List.getElem?_singleton] at h
    split at h
    · injection h with hxy
      exact Or.inr ⟨by omega, hxy.symm⟩
    · cases h

namespace Session

structure Parallel (R : Nat → Board → Board → Prop) (session other : Session) : Prop where
  handles_eq : other.handles = session.handles
  length_eq : other.boards.length = session.boards.length
  boards : ∀ (number : Nat) (board twin : Board), session.boards[number]? = some board →
    other.boards[number]? = some twin → R number board twin

theorem eq_of_boards_setBoard {session : Session} {number : Nat} {board after : Board}
    (h : (session.setBoard number after).boards[number]? = some board) : board = after := by
  rcases List.getElem?_eq_some_iff.mp h with ⟨hlt, hget⟩
  rw [← hget]
  exact List.getElem_set_self hlt

namespace Parallel

variable {R : Nat → Board → Board → Prop} {session other : Session} {handle number : Nat}
  {board twin : Board}

theorem imp {S : Nat → Board → Board → Prop} (h : Parallel R session other)
    (hRS : ∀ number board twin, session.boards[number]? = some board → R number board twin →
      S number board twin) : Parallel S session other where
  handles_eq := h.handles_eq
  length_eq := h.length_eq
  boards := by
    intro number board twin hboard htwin
    exact hRS number board twin hboard (h.boards number board twin hboard htwin)

theorem boardOf?_eq_none (h : Parallel R session other) (hnone : session.boardOf? handle = none) :
    other.boardOf? handle = none := by
  cases hfound : other.boardOf? handle with
  | none => rfl
  | some found =>
      rcases boardOf?_eq_some_iff.mp hfound with ⟨hhandle, htwin⟩
      rcases List.getElem?_eq_some_iff.mp htwin with ⟨hlt, -⟩
      rw [h.length_eq] at hlt
      rw [h.handles_eq] at hhandle
      rw [boardOf?_eq_some_iff.mpr ⟨hhandle, List.getElem?_eq_getElem hlt⟩] at hnone
      cases hnone

theorem exists_boardOf? (h : Parallel R session other)
    (hboard : session.boardOf? handle = some (number, board)) :
    ∃ twin, other.boardOf? handle = some (number, twin) ∧ R number board twin := by
  rcases boardOf?_eq_some_iff.mp hboard with ⟨hhandle, hnumber⟩
  rcases List.getElem?_eq_some_iff.mp hnumber with ⟨hlt, -⟩
  rw [← h.length_eq] at hlt
  have htwin := List.getElem?_eq_getElem hlt
  refine ⟨_, boardOf?_eq_some_iff.mpr ⟨?_, htwin⟩, h.boards number board _ hnumber htwin⟩
  rw [h.handles_eq, hhandle]

theorem setBoard (h : Parallel R session other) (hR : R number board twin) :
    Parallel R (session.setBoard number board) (other.setBoard number twin) where
  handles_eq := h.handles_eq
  length_eq := by
    unfold Session.setBoard
    rw [List.length_set, List.length_set, h.length_eq]
  boards := by
    intro there first second hfirst hsecond
    by_cases hthere : number = there
    · subst hthere
      rw [eq_of_boards_setBoard hfirst, eq_of_boards_setBoard hsecond]
      exact hR
    · rw [boards_setBoard_of_ne _ hthere] at hfirst hsecond
      exact h.boards there first second hfirst hsecond

theorem setBoard_left (h : Parallel R session other) {after : Board}
    (hR : ∀ twin, other.boards[number]? = some twin → R number after twin) :
    Parallel R (session.setBoard number after) other where
  handles_eq := h.handles_eq
  length_eq := by
    unfold Session.setBoard
    rw [List.length_set, h.length_eq]
  boards := by
    intro there first second hfirst hsecond
    by_cases hthere : number = there
    · subst hthere
      rw [eq_of_boards_setBoard hfirst]
      exact hR second hsecond
    · rw [boards_setBoard_of_ne _ hthere] at hfirst
      exact h.boards there first second hfirst hsecond

theorem addBoard (h : Parallel R session other) (hR : R session.boards.length board twin) :
    Parallel R (session.addBoard board).2 (other.addBoard twin).2 where
  handles_eq := by
    unfold Session.addBoard
    rw [h.handles_eq, h.length_eq]
  length_eq := by
    unfold Session.addBoard
    rw [List.length_append, List.length_append, h.length_eq]
    rfl
  boards := by
    intro there first second hfirst hsecond
    rcases getElem?_concat_cases hfirst with hfirst | ⟨rfl, rfl⟩
    · have hlt := (List.getElem?_eq_some_iff.mp hfirst).1
      rcases getElem?_concat_cases hsecond with hsecond | ⟨rfl, -⟩
      · exact h.boards there first second hfirst hsecond
      · exact absurd hlt (h.length_eq ▸ Nat.lt_irrefl _)
    · rcases getElem?_concat_cases hsecond with hsecond | ⟨-, rfl⟩
      · have hlt := (List.getElem?_eq_some_iff.mp hsecond).1
        exact absurd hlt (h.length_eq ▸ Nat.lt_irrefl _)
      · exact hR

theorem outcome_addBoard (h : Parallel R session other) (board twin : Board) :
    (other.addBoard twin).1 = (session.addBoard board).1 := by
  unfold Session.addBoard
  rw [h.handles_eq]

theorem addHandle (h : Parallel R session other) (number : Nat) :
    Parallel R { session with handles := session.handles ++ [number] }
      { other with handles := other.handles ++ [number] } where
  handles_eq := congrArg (· ++ [number]) h.handles_eq
  length_eq := h.length_eq
  boards := h.boards

theorem keep {ε : Type} (h : Parallel R session other) (attempt attempt' : Except ε Storage) :
    Parallel R (session.keep attempt) (other.keep attempt') := by
  cases attempt <;> cases attempt' <;> exact ⟨h.handles_eq, h.length_eq, h.boards⟩

end Parallel

end Session
end MessageBoard
