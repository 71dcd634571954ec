import MessageBoard.Proofs.Board.Locks
import MessageBoard.Proofs.Session.Frame

/-!
# Poisoned locks

A thread may stop at any moment with a lock in its hands.  What then becomes of a board depends on
its two locks alone: they decide which calls fail, a call that fails changes nothing at all, and
from the first poisoned lock on the entries and the flag stay as they are, whatever the program
goes on to do through whichever handle.
-/

namespace MessageBoard

theorem Board.Becomes.rests {board after : Board} (h : board.Becomes after) {lock : Lock}
    (hpoisoned : board.isPoisoned lock = true) : board.Rests after := by
  cases h with
  | same => exact .refl board
  | called call caller =>
      rw [perform_snd_of_poisoned hpoisoned call caller]
      exact .refl board
  | poisoned other => exact rests_poison board other

namespace Session

theorem rests_run {session : Session} {handle number : Nat} {board : Board} {lock : Lock}
    (hboard : session.boardOf? handle = some (number, board))
    (hpoisoned : board.isPoisoned lock = true) (steps : List Step) :
    ∃ after, (session.run steps).2.boardOf? handle = some (number, after) ∧
      board.Rests after := by
  induction steps generalizing session board with
  | nil => exact ⟨board, hboard, .refl board⟩
  | cons step rest ih =>
      rcases becomes_boardOf?_step step hboard with ⟨middle, hmiddle, hbecomes⟩
      have hrests := hbecomes.rests hpoisoned
      rcases ih hmiddle (hrests.poisoned lock hpoisoned) with ⟨after, hafter, hrest⟩
      exact ⟨after, hafter, hrests.trans hrest⟩

/-!
# Failing calls
-/

def Fails (session : Session) (handle : Nat) (call : Call) (caller : Caller) : Prop :=
  ∃ failure, (session.step (.call handle call caller)).1 = .reply (.error failure)

theorem fails_iff {session : Session} {handle number : Nat} {board : Board}
    (hboard : session.boardOf? handle = some (number, board)) (call : Call) (caller : Caller) :
    session.Fails handle call caller ↔ ∃ lock ∈ call.locks, board.isPoisoned lock = true := by
  unfold Fails
  rw [step_call_of_some hboard]
  rcases board.perform_cases call caller with ⟨hpoisoned, hperform⟩ | ⟨hsound, hperform⟩
  · rw [hperform]
    constructor
    · intro _
      exact hpoisoned
    · intro _
      exact ⟨_, rfl⟩
  · rw [hperform]
    constructor
    · rintro ⟨failure, hfailure⟩
      cases hfailure
    · rintro ⟨lock, hlock, hpoisoned⟩
      rw [hsound lock hlock] at hpoisoned
      cases hpoisoned

/--
The outcomes of calls follow the locks of the board that a handle leads to.  Calls that fail leave
everything as it was, and no call poisons a lock of the board, through whichever handle.
-/
structure ObeysLocks (session : Session) (handle number : Nat) (board : Board) : Prop where
  post_fails_iff : ∀ message caller,
    session.Fails handle (.post message) caller ↔
      board.logPoisoned = true ∨ board.flagPoisoned = true
  get_fails_iff : ∀ caller,
    session.Fails handle .get caller ↔ board.logPoisoned = true ∨ board.flagPoisoned = true
  clear_fails_iff : ∀ caller,
    session.Fails handle .clear caller ↔ board.logPoisoned = true ∨ board.flagPoisoned = true
  latest_fails_iff : ∀ caller, session.Fails handle .latest caller ↔ board.logPoisoned = true
  hasNew_fails_iff : ∀ caller, session.Fails handle .hasNew caller ↔ board.flagPoisoned = true
  answers : ∀ call caller, ¬ session.Fails handle call caller →
    ∃ reply, (session.step (.call handle call caller)).1 = .reply (.ok reply)
  failure : ∀ call caller failure,
    (session.step (.call handle call caller)).1 = .reply (.error failure) →
      failure.kind = .synchronization ∧ (session.step (.call handle call caller)).2 = session
  poisonsNothing : ∀ other call caller, ∃ after,
    (session.step (.call other call caller)).2.boardOf? handle = some (number, after) ∧
      after.logPoisoned = board.logPoisoned ∧ after.flagPoisoned = board.flagPoisoned

theorem obeysLocks_of_boardOf? {session : Session} {handle number : Nat} {board : Board}
    (hboard : session.boardOf? handle = some (number, board)) :
    session.ObeysLocks handle number board where
  post_fails_iff := by
    intro message caller
    rw [fails_iff hboard]
    simp [Call.locks, Board.isPoisoned]
  get_fails_iff := by
    intro caller
    rw [fails_iff hboard]
    simp [Call.locks, Board.isPoisoned]
  clear_fails_iff := by
    intro caller
    rw [fails_iff hboard]
    simp [Call.locks, Board.isPoisoned]
  latest_fails_iff := by
    intro caller
    rw [fails_iff hboard]
    simp [Call.locks, Board.isPoisoned]
  hasNew_fails_iff := by
    intro caller
    rw [fails_iff hboard]
    simp [Call.locks, Board.isPoisoned]
  answers := by
    intro call caller hfails
    rw [step_call_of_some hboard]
    rcases board.perform_cases call caller with ⟨hpoisoned, _⟩ | ⟨_, hperform⟩
    · exact absurd ((fails_iff hboard call caller).mpr hpoisoned) hfails
    · exact ⟨_, by rw [hperform]⟩
  failure := by
    intro call caller failure hfailure
    rw [step_call_of_some hboard] at hfailure ⊢
    rcases board.perform_cases call caller with ⟨_, hperform⟩ | ⟨_, hperform⟩
    · rw [hperform] at hfailure ⊢
      cases hfailure
      exact ⟨rfl, setBoard_self (boardOf?_eq_some_iff.mp hboard).2⟩
    · rw [hperform] at hfailure
      cases hfailure
  poisonsNothing := by
    intro other call caller
    rcases boardOf?_step_call hboard other call caller with ⟨after, hafter, hcase⟩
    refine ⟨after, hafter, ?_⟩
    rcases hcase with rfl | rfl
    · exact ⟨rfl, rfl⟩
    · exact ⟨board.isPoisoned_perform call caller .log, board.isPoisoned_perform call caller .flag⟩

/-!
# Boards that stand still

Both facts together say what poisoned locks mean for a program.  The first holds of every board in
every session, and the second of every board with a poisoned lock; the program may go on to open
other boards, to clone handles and to poison more locks.
-/

/-- Whatever happens, a board keeps its entries and its flag, and they are all that is ever seen. -/
def StandsStill (session : Session) (handle number : Nat) (board : Board) : Prop :=
  ∀ steps, ∃ after,
    (session.run steps).2.boardOf? handle = some (number, after) ∧
      after.log = board.log ∧
      after.unread = board.unread ∧
      ∀ clone caller, (session.run steps).2.boardOf? clone = some (number, after) →
        (after.logPoisoned = false →
          ((session.run steps).2.step (.call clone .latest caller)).1 =
            .reply (.ok (.entry board.log.last?))) ∧
        (after.flagPoisoned = false →
          ((session.run steps).2.step (.call clone .hasNew caller)).1 =
            .reply (.ok (.flag board.unread)))

theorem standsStill_of_poisoned {session : Session} {handle number : Nat} {board : Board}
    (hboard : session.boardOf? handle = some (number, board)) (lock : Lock)
    (hpoisoned : board.isPoisoned lock = true) : session.StandsStill handle number board := by
  intro steps
  rcases rests_run hboard hpoisoned steps with ⟨after, hafter, hrests⟩
  refine ⟨after, hafter, hrests.log_eq, hrests.unread_eq, ?_⟩
  intro clone caller hclone
  constructor
  · intro hlog
    have hsound : ∀ lock ∈ Call.latest.locks, after.isPoisoned lock = false := by
      intro lock hlock
      rw [List.mem_singleton.mp hlock]
      exact hlog
    rw [step_call_of_some hclone, Board.perform_of_unpoisoned hsound, ← hrests.log_eq]
    rfl
  · intro hflag
    have hsound : ∀ lock ∈ Call.hasNew.locks, after.isPoisoned lock = false := by
      intro lock hlock
      rw [List.mem_singleton.mp hlock]
      exact hflag
    rw [step_call_of_some hclone, Board.perform_of_unpoisoned hsound, ← hrests.unread_eq]
    rfl

theorem obeysLocks_and_standsStill {session : Session} {handle number : Nat} {board : Board}
    (hboard : session.boardOf? handle = some (number, board)) :
    session.ObeysLocks handle number board ∧
      (board.logPoisoned = true ∨ board.flagPoisoned = true →
        session.StandsStill handle number board) := by
  constructor
  · exact obeysLocks_of_boardOf? hboard
  · rintro (hlog | hflag)
    · exact standsStill_of_poisoned hboard .log hlog
    · exact standsStill_of_poisoned hboard .flag hflag

/-- A board with one entry, reached through a clone after its flag was poisoned. -/
theorem standsStill_poisoned_clone :
    ∃ session board,
      session = (initial.run
        [.openBoard ⟨2, some "Welcome"⟩ ⟨.main, ⟨0, 0⟩⟩, .clone 0, .poison 0 .flag]).2 ∧
      session.boardOf? 1 = some (0, board) ∧
      board.logPoisoned = false ∧
      board.flagPoisoned = true ∧
      session.ObeysLocks 1 0 board ∧
      session.StandsStill 1 0 board :=
  ⟨_, _, rfl, rfl, rfl, rfl, (obeysLocks_and_standsStill rfl).1,
    (obeysLocks_and_standsStill rfl).2 (Or.inr rfl)⟩

end Session
end MessageBoard
