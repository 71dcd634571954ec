import MessageBoard.Proofs.Board.Locks
import MessageBoard.Proofs.Log.LastItems
import MessageBoard.Proofs.Session.Sharing

/-!
# Boards remembered in full

A history is a board that never drops an entry: it has all entries since it was opened or last
cleared, and is unread from a post on until the next `get` or `clear`.  It knows no capacity and no
lock; the capacity is looked at only when a question is answered.  A program cannot tell its board
from the history of that board: every use of it has the outcome that the history gives.
-/

namespace MessageBoard

structure History where
  handles : Nat
  entries : List Entry
  unread : Bool

namespace History

def entry (message : Message) (caller : Caller) : Entry :=
  ⟨message, caller.thread.name.getD "Unknown", caller.now⟩

def start (settings : Settings) (creator : Caller) : History where
  handles := 1
  entries := (settings.welcome.map fun text => entry ⟨text, .message⟩ creator).toList
  unread := false

/-- The reply to a call if a capacity allows so many entries to be seen. -/
def answer (history : History) (capacity : Nat) (call : Call) (caller : Caller) :
    Reply × History :=
  match call with
  | .post message =>
      (.done, { history with entries := history.entries ++ [entry message caller], unread := true })
  | .get => (.entries (lastItems capacity history.entries), { history with unread := false })
  | .latest => (.entry (if 0 < capacity then history.entries.getLast? else none), history)
  | .hasNew => (.flag history.unread, history)
  | .clear => (.done, { history with entries := [], unread := false })

def step (history : History) (capacity : Nat) : Session.Use → Session.Outcome × History
  | .clone handle =>
      if handle < history.handles then
        (.handle history.handles, { history with handles := history.handles + 1 })
      else (.noHandle, history)
  | .call handle call caller =>
      if handle < history.handles then
        let (reply, history) := history.answer capacity call caller
        (.reply (.ok reply), history)
      else (.noHandle, history)

def outcomes (history : History) (capacity : Nat) : List Session.Use → List Session.Outcome
  | [] => []
  | use :: uses =>
      (history.step capacity use).1 :: (history.step capacity use).2.outcomes capacity uses

/-!
# What a board keeps of its history

The log of a board is what its capacity leaves of the history.
-/

structure KeptBy (history : History) (capacity : Nat) (board : Board) : Prop where
  capacity_eq : board.log.capacity = capacity
  entries_eq : board.log.entries = lastItems capacity history.entries
  unread_eq : board.unread = history.unread
  isSound : board.IsSound

theorem keptBy_start (settings : Settings) (creator : Caller) :
    (start settings creator).KeptBy settings.capacity.toNat (.ofSettings settings creator) := by
  cases settings with
  | mk capacity welcome =>
      constructor
      · cases welcome <;> rfl
      · cases welcome with
        | none => exact (lastItems_nil _).symm
        | some text => exact evict_eq_lastItems _ _
      · rfl
      · exact Board.isSound_ofSettings _ creator

theorem KeptBy.answer {history : History} {capacity : Nat} {board : Board}
    (h : history.KeptBy capacity board) (call : Call) (caller : Caller) :
    (board.perform call caller).1 = .ok (history.answer capacity call caller).1 ∧
      (history.answer capacity call caller).2.KeptBy capacity (board.perform call caller).2 := by
  rw [Board.perform_of_isSound h.isSound]
  have hsound : (board.act call caller).2.IsSound := by
    intro lock
    rw [Board.isPoisoned_act]
    exact h.isSound lock
  cases call with
  | post message =>
      refine ⟨rfl, h.capacity_eq, ?_, rfl, hsound⟩
      change evict board.log.capacity (board.log.entries ++ [entry message caller]) = _
      rw [evict_eq_lastItems, h.capacity_eq, h.entries_eq]
      exact lastItems_lastItems_append capacity history.entries _
  | get =>
      refine ⟨?_, h.capacity_eq, h.entries_eq, rfl, hsound⟩
      exact congrArg (Except.ok ∘ Reply.entries) h.entries_eq
  | latest =>
      refine ⟨?_, h.capacity_eq, h.entries_eq, h.unread_eq, hsound⟩
      change Except.ok (Reply.entry board.log.entries.getLast?) = _
      rw [h.entries_eq, getLast?_lastItems]
      rfl
  | hasNew =>
      refine ⟨?_, h.capacity_eq, h.entries_eq, h.unread_eq, hsound⟩
      exact congrArg (Except.ok ∘ Reply.flag) h.unread_eq
  | clear =>
      refine ⟨rfl, h.capacity_eq, ?_, rfl, hsound⟩
      exact (lastItems_nil capacity).symm

/-!
# Programs and histories

A program and a history correspond when the history is kept by the program's board and counts the
program's handles.
-/

structure Tells (history : History) (capacity : Nat) (session : Session) : Prop where
  handles : history.handles = session.handles.length
  board : ∃ board, session.Shares board ∧ history.KeptBy capacity board

theorem tells_start (settings : Settings) (creator : Caller) :
    (start settings creator).Tells settings.capacity.toNat (.opened settings creator) :=
  ⟨(Session.length_handles_opened settings creator).symm,
    .ofSettings settings creator, Session.shares_opened settings creator,
    keptBy_start settings creator⟩

theorem Tells.clone {history : History} {capacity : Nat} {session : Session}
    (h : history.Tells capacity session) {handle : Nat}
    (hhandle : handle < session.handles.length) :
    (session.step (.clone handle)).1 = .handle history.handles ∧
      { history with handles := history.handles + 1 }.Tells capacity
        (session.step (.clone handle)).2 := by
  rcases h.board with ⟨board, hshares, hkept⟩
  rcases hshares.step_clone hhandle with ⟨houtcome, hafter, hhandles⟩
  refine ⟨?_, ?_, board, hafter, hkept.capacity_eq, hkept.entries_eq, hkept.unread_eq,
    hkept.isSound⟩
  · rw [houtcome, h.handles]
  · rw [hhandles, h.handles]

theorem Tells.call {history : History} {capacity : Nat} {session : Session}
    (h : history.Tells capacity session) {handle : Nat}
    (hhandle : handle < session.handles.length) (call : Call) (caller : Caller) :
    (session.step (.call handle call caller)).1 =
        .reply (.ok (history.answer capacity call caller).1) ∧
      (history.answer capacity call caller).2.Tells capacity
        (session.step (.call handle call caller)).2 := by
  rcases h.board with ⟨board, hshares, hkept⟩
  rcases hshares.step_call hhandle call caller with ⟨houtcome, hafter, hhandles⟩
  rcases hkept.answer call caller with ⟨hreply, hkeeps⟩
  refine ⟨?_, ?_, _, hafter, hkeeps⟩
  · rw [houtcome, hreply]
  · rw [hhandles, ← h.handles]
    cases call <;> rfl

theorem Tells.step {history : History} {capacity : Nat} {session : Session}
    (h : history.Tells capacity session) (use : Session.Use) :
    (session.step use.step).1 = (history.step capacity use).1 ∧
      (history.step capacity use).2.Tells capacity (session.step use.step).2 := by
  rcases h.board with ⟨board, hshares, _⟩
  cases use with
  | clone handle =>
      by_cases hhandle : handle < history.handles
      · simp only [History.step, if_pos hhandle]
        exact h.clone (h.handles ▸ hhandle)
      · have hnone := (hshares.step_of_ge (h.handles ▸ Nat.le_of_not_lt hhandle)).1
        simp only [History.step, if_neg hhandle, Session.Use.step, hnone]
        exact ⟨trivial, h⟩
  | call handle call caller =>
      by_cases hhandle : handle < history.handles
      · simp only [History.step, if_pos hhandle]
        exact h.call (h.handles ▸ hhandle) call caller
      · have hnone := (hshares.step_of_ge (h.handles ▸ Nat.le_of_not_lt hhandle)).2 call caller
        simp only [History.step, if_neg hhandle, Session.Use.step, hnone]
        exact ⟨trivial, h⟩

theorem Tells.outcomes {history : History} {capacity : Nat} {session : Session}
    (h : history.Tells capacity session) (uses : List Session.Use) :
    (session.use uses).1 = history.outcomes capacity uses := by
  induction uses generalizing history session with
  | nil => rfl
  | cons use rest ih =>
      have hstep := h.step use
      rw [Session.use_cons, History.outcomes, hstep.1, ih hstep.2]

/-- A program sees of its board what the history of the board tells. -/
theorem outcomes_use_opened (settings : Settings) (creator : Caller)
    (uses : List Session.Use) :
    ((Session.opened settings creator).use uses).1 =
      (start settings creator).outcomes settings.capacity.toNat uses :=
  (tells_start settings creator).outcomes uses

end History
end MessageBoard
