import MessageBoard.Proofs.Board.Locks
import MessageBoard.Proofs.Session.Frame

/-!
# Programs with one board

A program opens a board and reaches it through handles alone: it clones handles and calls the board
through any of them, from any thread.  All its handles lead to the same board, so the state of such
a program is the state of the board and the number of handles.
-/

namespace MessageBoard
namespace Session

inductive Use where
  | clone (handle : Nat)
  | call (handle : Nat) (call : Call) (caller : Caller)

def Use.step : Use → Step
  | .clone handle => .clone handle
  | .call handle request caller => .call handle request caller

def opened (settings : Settings) (creator : Caller) : Session :=
  (initial.step (.openBoard settings creator)).2

def use (session : Session) (uses : List Use) : List Outcome × Session :=
  session.run (uses.map Use.step)

theorem use_cons (session : Session) (use : Use) (uses : List Use) :
    session.use (use :: uses) =
      ((session.step use.step).1 :: ((session.step use.step).2.use uses).1,
        ((session.step use.step).2.use uses).2) := rfl

/-!
# One board behind every handle

The relation below is what a program keeps: there is one board, it is in the given state, and every
handle is a number of that board.
-/

structure Shares (session : Session) (board : Board) : Prop where
  boards : session.boards = [board]
  handles : ∀ number ∈ session.handles, number = 0

theorem shares_opened (settings : Settings) (creator : Caller) :
    (opened settings creator).Shares (.ofSettings settings creator) := by
  constructor
  · rfl
  · intro number hnumber
    simpa [opened, initial, step, addBoard] using hnumber

theorem length_handles_opened (settings : Settings) (creator : Caller) :
    (opened settings creator).handles.length = 1 := rfl

namespace Shares

variable {session : Session} {board : Board} {handle : Nat}

theorem boardOf?_of_lt (h : session.Shares board) (hhandle : handle < session.handles.length) :
    session.boardOf? handle = some (0, board) := by
  have hnumber : session.handles[handle] = 0 :=
    h.handles _ (List.getElem_mem hhandle)
  simp [boardOf?, List.getElem?_eq_getElem hhandle, hnumber, h.boards]

theorem boardOf?_of_ge (_h : session.Shares board) (hhandle : session.handles.length ≤ handle) :
    session.boardOf? handle = none := by
  simp [boardOf?, List.getElem?_eq_none hhandle]

theorem setBoard (h : session.Shares board) (after : Board) :
    (session.setBoard 0 after).Shares after := by
  constructor
  · simp [Session.setBoard, h.boards]
  · exact h.handles

theorem step_clone (h : session.Shares board) (hhandle : handle < session.handles.length) :
    (session.step (.clone handle)).1 = .handle session.handles.length ∧
      (session.step (.clone handle)).2.Shares board ∧
      (session.step (.clone handle)).2.handles.length = session.handles.length + 1 := by
  rw [step_clone_of_some (h.boardOf?_of_lt hhandle)]
  refine ⟨rfl, ⟨h.boards, ?_⟩, ?_⟩
  · intro number hnumber
    rcases List.mem_append.mp hnumber with hold | hnew
    · exact h.handles number hold
    · exact List.mem_singleton.mp hnew
  · exact List.length_append

theorem step_call (h : session.Shares board) (hhandle : handle < session.handles.length)
    (call : Call) (caller : Caller) :
    (session.step (.call handle call caller)).1 = .reply (board.perform call caller).1 ∧
      (session.step (.call handle call caller)).2.Shares (board.perform call caller).2 ∧
      (session.step (.call handle call caller)).2.handles.length = session.handles.length := by
  rw [step_call_of_some (h.boardOf?_of_lt hhandle)]
  exact ⟨rfl, h.setBoard _, rfl⟩

theorem step_call_of_isSound (h : session.Shares board) (hsound : board.IsSound)
    (hhandle : handle < session.handles.length) (call : Call) (caller : Caller) :
    session.step (.call handle call caller) =
      (.reply (.ok (board.act call caller).1), session.setBoard 0 (board.act call caller).2) := by
  rw [step_call_of_some (h.boardOf?_of_lt hhandle), Board.perform_of_isSound hsound]

theorem step_of_ge (h : session.Shares board) (hhandle : session.handles.length ≤ handle) :
    session.step (.clone handle) = (.noHandle, session) ∧
      ∀ call caller, session.step (.call handle call caller) = (.noHandle, session) := by
  have hboard := h.boardOf?_of_ge hhandle
  constructor
  · exact step_clone_of_none hboard
  · exact step_call_of_none hboard

end Shares

end Session
end MessageBoard
