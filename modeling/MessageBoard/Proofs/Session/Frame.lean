import MessageBoard.Session

/-!
# What a step can do to a board

A session holds many boards, and a step touches at most one of them.  Whatever the step is, a board
that exists before it is still there after it, under the same number and behind the same handles; it
is as it was, or it has answered a call, or one of its locks has been poisoned.
-/

namespace MessageBoard

/-- The states in which a single step of a session can leave a board. -/
inductive Board.Becomes (board : Board) : Board → Prop where
  | same : Becomes board board
  | called (call : Call) (caller : Caller) : Becomes board (board.perform call caller).2
  | poisoned (lock : Lock) : Becomes board (board.poison lock)

namespace Session

theorem run_append (session : Session) (steps more : List Step) :
    session.run (steps ++ more) =
      ((session.run steps).1 ++ ((session.run steps).2.run more).1,
        ((session.run steps).2.run more).2) := by
  induction steps generalizing session with
  | nil => rfl
  | cons step steps ih => rw [List.cons_append, run_cons, run_cons, ih, List.cons_append]

theorem boardOf?_eq_some_iff {session : Session} {handle number : Nat} {board : Board} :
    session.boardOf? handle = some (number, board) ↔
      session.handles[handle]? = some number ∧ session.boards[number]? = some board := by
  unfold boardOf?
  cases hnumber : session.handles[handle]? with
  | none => simp
  | some found =>
      cases hboard : session.boards[found]? with
      | none =>
          simp only [Option.bind_eq_bind, Option.bind_some, hboard, Option.bind_none, reduceCtorEq,
            Option.some.injEq, false_iff, not_and]
          intro hfound
          rw [← hfound, hboard]
          simp
      | some first =>
          simp only [Option.bind_eq_bind, Option.bind_some, hboard, Option.some.injEq,
            Prod.mk.injEq]
          constructor
          · rintro ⟨rfl, rfl⟩
            exact ⟨rfl, hboard⟩
          · rintro ⟨rfl, hfirst⟩
            exact ⟨rfl, by simpa [hboard] using hfirst⟩

/-!
# Steps through a handle

A step through a handle depends on the board that the handle leads to, and without one it does
nothing.
-/

section Handle

variable {session : Session} {handle number : Nat} {board : Board}

theorem step_clone_of_none (h : session.boardOf? handle = none) :
    session.step (.clone handle) = (.noHandle, session) := by
  simp [step, h]

theorem step_clone_of_some (h : session.boardOf? handle = some (number, board)) :
    session.step (.clone handle) =
      (.handle session.handles.length,
        { session with handles := session.handles ++ [number] }) := by
  simp [step, h]

theorem step_call_of_none (h : session.boardOf? handle = none) (call : Call) (caller : Caller) :
    session.step (.call handle call caller) = (.noHandle, session) := by
  simp [step, h]

theorem step_call_of_some (h : session.boardOf? handle = some (number, board)) (call : Call)
    (caller : Caller) :
    session.step (.call handle call caller) =
      (.reply (board.perform call caller).1,
        session.setBoard number (board.perform call caller).2) := by
  simp [step, h]

theorem step_poison_of_none (h : session.boardOf? handle = none) (lock : Lock) :
    session.step (.poison handle lock) = (.noHandle, session) := by
  simp [step, h]

theorem step_poison_of_some (h : session.boardOf? handle = some (number, board)) (lock : Lock) :
    session.step (.poison handle lock) = (.done, session.setBoard number (board.poison lock)) := by
  simp [step, h]

end Handle

/-!
# Boards set anew
-/

theorem setBoard_self {session : Session} {number : Nat} {board : Board}
    (hboard : session.boards[number]? = some board) : session.setBoard number board = session := by
  rcases List.getElem?_eq_some_iff.mp hboard with ⟨hlt, hget⟩
  unfold setBoard
  rw [← hget, List.set_getElem_self]

theorem boards_setBoard_self {session : Session} {number : Nat} {board : Board} (after : Board)
    (hboard : session.boards[number]? = some board) :
    (session.setBoard number after).boards[number]? = some after := by
  rcases List.getElem?_eq_some_iff.mp hboard with ⟨hlt, _⟩
  simp [setBoard, List.getElem?_set_self hlt]

theorem boards_setBoard_of_ne {session : Session} {number other : Nat} (after : Board)
    (hne : other ≠ number) :
    (session.setBoard other after).boards[number]? = session.boards[number]? := by
  simp [setBoard, List.getElem?_set_ne hne]

theorem boards_setBoard_cases {session : Session} {number other : Nat} {board first : Board}
    (hboard : session.boards[number]? = some board) (hfirst : session.boards[other]? = some first)
    (after : Board) :
    (session.setBoard other after).boards[number]? = some board ∨
      first = board ∧ (session.setBoard other after).boards[number]? = some after := by
  by_cases hother : other = number
  · subst hother
    rw [hboard] at hfirst
    injection hfirst with hsame
    exact Or.inr ⟨hsame.symm, boards_setBoard_self after hboard⟩
  · exact Or.inl (by rw [boards_setBoard_of_ne after hother, hboard])

theorem becomes_setBoard {session : Session} {number other : Nat} {board first after : Board}
    (hboard : session.boards[number]? = some board) (hfirst : session.boards[other]? = some first)
    (hbecomes : first.Becomes after) :
    ∃ result, (session.setBoard other after).boards[number]? = some result ∧
      board.Becomes result := by
  rcases boards_setBoard_cases hboard hfirst after with hkept | ⟨hsame, hset⟩
  · exact ⟨board, hkept, .same⟩
  · exact ⟨after, hset, hsame ▸ hbecomes⟩

theorem boards_keep {ε : Type} (session : Session) (attempt : Except ε Storage) :
    (session.keep attempt).boards = session.boards := by
  cases attempt <;> rfl

theorem handles_keep {ε : Type} (session : Session) (attempt : Except ε Storage) :
    (session.keep attempt).handles = session.handles := by
  cases attempt <;> rfl

/-!
# Steps
-/

theorem becomes_step (session : Session) (step : Step) {number : Nat} {board : Board}
    (hboard : session.boards[number]? = some board) :
    ∃ after, (session.step step).2.boards[number]? = some after ∧ board.Becomes after := by
  have hadded : ∀ added, (session.boards ++ [added])[number]? = some board := by
    intro added
    rcases List.getElem?_eq_some_iff.mp hboard with ⟨hlt, _⟩
    rw [List.getElem?_append_left hlt, hboard]
  cases step with
  | openBoard settings caller => exact ⟨board, hadded _, .same⟩
  | openFile path caller => exact ⟨board, hadded _, .same⟩
  | clone handle =>
      refine ⟨board, ?_, .same⟩
      cases hfound : session.boardOf? handle with
      | none => rwa [step_clone_of_none hfound]
      | some found => rwa [step_clone_of_some hfound]
  | call handle call caller =>
      cases hfound : session.boardOf? handle with
      | none =>
          rw [step_call_of_none hfound]
          exact ⟨board, hboard, .same⟩
      | some found =>
          rw [step_call_of_some hfound]
          exact becomes_setBoard hboard (boardOf?_eq_some_iff.mp hfound).2 (.called call caller)
  | poison handle lock =>
      cases hfound : session.boardOf? handle with
      | none =>
          rw [step_poison_of_none hfound]
          exact ⟨board, hboard, .same⟩
      | some found =>
          rw [step_poison_of_some hfound]
          exact becomes_setBoard hboard (boardOf?_eq_some_iff.mp hfound).2 (.poisoned lock)
  | load path => exact ⟨board, hboard, .same⟩
  | save path settings =>
      refine ⟨board, ?_, .same⟩
      cases hsave : settings.save? session.storage path with
      | none => simpa [Session.step, hsave] using hboard
      | some attempt => simpa [Session.step, hsave, boards_keep] using hboard
  | write path content => exact ⟨board, by simpa [Session.step, boards_keep] using hboard, .same⟩
  | makeDirectory path =>
      exact ⟨board, by simpa [Session.step, boards_keep] using hboard, .same⟩

theorem handles_step (session : Session) (step : Step) :
    session.handles <+: (session.step step).2.handles := by
  cases step with
  | openBoard settings caller => exact List.prefix_append _ _
  | openFile path caller => exact List.prefix_append _ _
  | clone handle =>
      cases hfound : session.boardOf? handle with
      | none => exact ⟨[], by rw [step_clone_of_none hfound, List.append_nil]⟩
      | some found =>
          rw [step_clone_of_some hfound]
          exact List.prefix_append _ _
  | call handle call caller =>
      cases hfound : session.boardOf? handle with
      | none => exact ⟨[], by rw [step_call_of_none hfound, List.append_nil]⟩
      | some found =>
          rw [step_call_of_some hfound]
          exact List.prefix_rfl
  | poison handle lock =>
      cases hfound : session.boardOf? handle with
      | none => exact ⟨[], by rw [step_poison_of_none hfound, List.append_nil]⟩
      | some found =>
          rw [step_poison_of_some hfound]
          exact List.prefix_rfl
  | load path => exact List.prefix_rfl
  | save path settings =>
      cases hsave : settings.save? session.storage path with
      | none => simp [Session.step, hsave]
      | some attempt => simp [Session.step, hsave, handles_keep]
  | write path content => simp [Session.step, handles_keep]
  | makeDirectory path => simp [Session.step, handles_keep]

theorem boardOf?_step {session : Session} {handle number : Nat} {board after : Board} (step : Step)
    (hboard : session.boardOf? handle = some (number, board))
    (hafter : (session.step step).2.boards[number]? = some after) :
    (session.step step).2.boardOf? handle = some (number, after) := by
  rcases boardOf?_eq_some_iff.mp hboard with ⟨hhandle, _⟩
  refine boardOf?_eq_some_iff.mpr ⟨?_, hafter⟩
  rcases handles_step session step with ⟨added, hadded⟩
  rcases List.getElem?_eq_some_iff.mp hhandle with ⟨hlt, _⟩
  rw [← hadded, List.getElem?_append_left hlt, hhandle]

theorem becomes_boardOf?_step {session : Session} {handle number : Nat} {board : Board}
    (step : Step) (hboard : session.boardOf? handle = some (number, board)) :
    ∃ after, (session.step step).2.boardOf? handle = some (number, after) ∧
      board.Becomes after := by
  rcases becomes_step session step (boardOf?_eq_some_iff.mp hboard).2 with ⟨after, hafter, hbecomes⟩
  exact ⟨after, boardOf?_step step hboard hafter, hbecomes⟩

theorem boardOf?_step_call {session : Session} {handle number : Nat} {board : Board}
    (hboard : session.boardOf? handle = some (number, board)) (other : Nat) (call : Call)
    (caller : Caller) :
    ∃ after, (session.step (.call other call caller)).2.boardOf? handle = some (number, after) ∧
      (after = board ∨ after = (board.perform call caller).2) := by
  cases hfound : session.boardOf? other with
  | none =>
      rw [step_call_of_none hfound]
      exact ⟨board, hboard, Or.inl rfl⟩
  | some found =>
      have hfirst := (boardOf?_eq_some_iff.mp hfound).2
      have hnumber := (boardOf?_eq_some_iff.mp hboard).2
      have hstep := step_call_of_some hfound call caller
      rcases boards_setBoard_cases hnumber hfirst (found.2.perform call caller).2 with
        hkept | ⟨hsame, hset⟩
      · refine ⟨board, boardOf?_step _ hboard ?_, Or.inl rfl⟩
        rw [hstep, hkept]
      · refine ⟨_, boardOf?_step _ hboard ?_, Or.inr rfl⟩
        rw [hstep, hset, hsame]

end Session
end MessageBoard
