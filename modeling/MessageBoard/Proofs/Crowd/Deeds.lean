import MessageBoard.Proofs.Crowd.Schedule
import MessageBoard.Proofs.Session.Frame

/-!
# Calls that have been answered

A list of calls with their replies says in which order the calls of several threads were answered.
The calls of each thread are numbered from 0 on in the thread's own order, so that they can be told
apart; a program that makes the calls one at a time in this order gets these replies.
-/

namespace MessageBoard

/-- A call of a thread that has been answered. -/
structure Deed where
  visitor : Nat
  number : Nat
  caller : Caller
  request : Request
  reply : Reply

namespace Deed

def step (deed : Deed) : Session.Step := .call deed.request.handle deed.request.call deed.caller

def outcome (deed : Deed) : Session.Outcome := .reply (.ok deed.reply)

end Deed

def deedsOf (i : Nat) (deeds : List Deed) : List Deed := deeds.filter (·.visitor = i)

theorem deedsOf_append (i : Nat) (deeds more : List Deed) :
    deedsOf i (deeds ++ more) = deedsOf i deeds ++ deedsOf i more := by
  simp [deedsOf]

theorem deedsOf_own (deed : Deed) : deedsOf deed.visitor [deed] = [deed] := by
  simp [deedsOf]

theorem deedsOf_other {deed : Deed} {i : Nat} (hne : i ≠ deed.visitor) : deedsOf i [deed] = [] := by
  simp [deedsOf, hne.symm]

theorem mem_deedsOf {deed : Deed} {deeds : List Deed} (h : deed ∈ deeds) :
    deed ∈ deedsOf deed.visitor deeds := by
  simpa [deedsOf] using h

def AreNumbered (deeds : List Deed) : Prop := deeds.map (·.number) = List.range deeds.length

theorem AreNumbered.number_eq {deeds : List Deed} (h : AreNumbered deeds) {k : Nat} {deed : Deed}
    (hdeed : deeds[k]? = some deed) : deed.number = k := by
  have hlt := (List.getElem?_eq_some_iff.mp hdeed).1
  have hnumber : (deeds.map (·.number))[k]? = some deed.number := by
    rw [List.getElem?_map, hdeed]
    rfl
  rw [h, List.getElem?_range hlt] at hnumber
  exact (Option.some.inj hnumber).symm

theorem AreNumbered.number_lt {deeds more : List Deed} (h : AreNumbered (deeds ++ more))
    {deed : Deed} (hdeed : deed ∈ deeds) : deed.number < deeds.length := by
  rcases List.mem_iff_getElem?.mp hdeed with ⟨k, hk⟩
  have hlt := (List.getElem?_eq_some_iff.mp hk).1
  have hnumber := h.number_eq ((List.getElem?_append_left hlt).trans hk)
  omega

theorem AreNumbered.le_number {deeds more : List Deed} (h : AreNumbered (deeds ++ more))
    {deed : Deed} (hdeed : deed ∈ more) : deeds.length ≤ deed.number := by
  rcases List.mem_iff_getElem?.mp hdeed with ⟨k, hk⟩
  have hplace : (deeds ++ more)[deeds.length + k]? = some deed := by
    rw [List.getElem?_append_right (Nat.le_add_right _ _), Nat.add_sub_cancel_left, hk]
  have hnumber := h.number_eq hplace
  omega

theorem AreNumbered.concat {deeds : List Deed} (h : AreNumbered deeds) {deed : Deed}
    (hnumber : deed.number = deeds.length) : AreNumbered (deeds ++ [deed]) := by
  unfold AreNumbered at h ⊢
  rw [List.map_append, h, List.length_append, List.length_singleton, List.range_succ,
    List.map_singleton, hnumber]

namespace Board

/-- A board answers the calls one at a time, each in a single step. -/
def Answers (board : Board) : List Deed → Board → Prop
  | [], after => after = board
  | deed :: deeds, after =>
      deed.reply = (board.act deed.request.call deed.caller).1 ∧
        (board.act deed.request.call deed.caller).2.Answers deeds after

theorem Answers.concat {board middle : Board} {deeds : List Deed} (h : board.Answers deeds middle)
    {deed : Deed} (hreply : deed.reply = (middle.act deed.request.call deed.caller).1) :
    board.Answers (deeds ++ [deed]) (middle.act deed.request.call deed.caller).2 := by
  induction deeds generalizing board with
  | nil =>
      cases h
      exact ⟨hreply, rfl⟩
  | cons first deeds ih => exact ⟨h.1, ih h.2⟩

end Board

theorem Session.run_of_answers {session : Session} {number : Nat} {board after : Board}
    {deeds : List Deed} (hboard : session.boards[number]? = some board) (hsound : board.IsSound)
    (hanswers : board.Answers deeds after)
    (hclones : ∀ deed ∈ deeds, session.handles[deed.request.handle]? = some number) :
    session.run (deeds.map Deed.step) = (deeds.map Deed.outcome, session.setBoard number after) := by
  induction deeds generalizing session board with
  | nil =>
      cases hanswers
      rw [setBoard_self hboard]
      rfl
  | cons deed deeds ih =>
      have hhandle := hclones deed List.mem_cons_self
      have hstep := step_call_of_some (boardOf?_eq_some_iff.mpr ⟨hhandle, hboard⟩)
        deed.request.call deed.caller
      rw [Board.perform_of_isSound hsound] at hstep
      have hrest := ih (boards_setBoard_self _ hboard) (hsound.act deed.request.call deed.caller)
        hanswers.2 fun other hother => hclones other (List.mem_cons_of_mem deed hother)
      have hset : ∀ middle, (session.setBoard number middle).setBoard number after =
          session.setBoard number after := by
        intro middle
        simp [setBoard]
      rw [List.map_cons, run_cons, Deed.step, hstep]
      dsimp only
      rw [hrest, hset, List.map_cons, Deed.outcome, hanswers.1]

end MessageBoard
