import MessageBoard.Board

/-!
# Calls and their locks

A call of which no lock is poisoned does its work, and any other fails and leaves the board alone,
since a call has all of its locks before it changes anything.  The work itself never touches the
state of a lock, and only what the call writes changes.
-/

namespace MessageBoard

/-- The locks that a call takes, in the order in which it takes them. -/
def Call.locks : Call → List Lock
  | .post _ => [.log, .flag]
  | .get => [.log, .flag]
  | .latest => [.log]
  | .hasNew => [.flag]
  | .clear => [.log, .flag]

namespace Board

/-!
# Calls that have their locks
-/

/-- The reply to a call that has its locks, and the board after it. -/
def act (board : Board) (call : Call) (caller : Caller) : Reply × Board :=
  match call with
  | .post message =>
      (.done, { board with log := board.log.add (.ofCaller message caller), unread := true })
  | .get => (.entries board.log.entries, { board with unread := false })
  | .latest => (.entry board.log.last?, board)
  | .hasNew => (.flag board.unread, board)
  | .clear => (.done, { board with log := board.log.clear, unread := false })

theorem perform_eq (board : Board) (call : Call) (caller : Caller) :
    board.perform call caller =
      if call.locks.any board.isPoisoned then (.error (.ofCause .poisonedLock), board)
      else (.ok (board.act call caller).1, (board.act call caller).2) := by
  rcases board with ⟨log, unread, logPoisoned, flagPoisoned⟩
  cases call <;> cases logPoisoned <;> cases flagPoisoned <;> rfl

def IsSound (board : Board) : Prop := ∀ lock, board.isPoisoned lock = false

theorem isSound_ofSettings (settings : Settings) (caller : Caller) :
    (ofSettings settings caller).IsSound := by
  intro lock
  cases lock <;> rfl

theorem isPoisoned_act (board : Board) (call : Call) (caller : Caller) (lock : Lock) :
    (board.act call caller).2.isPoisoned lock = board.isPoisoned lock := by
  cases call <;> cases lock <;> rfl

theorem IsSound.act {board : Board} (h : board.IsSound) (call : Call) (caller : Caller) :
    (board.act call caller).2.IsSound := by
  intro lock
  rw [isPoisoned_act]
  exact h lock

theorem perform_of_poisoned {board : Board} {call : Call} {lock : Lock}
    (hlock : lock ∈ call.locks) (hpoisoned : board.isPoisoned lock = true) (caller : Caller) :
    board.perform call caller = (.error (.ofCause .poisonedLock), board) := by
  rw [perform_eq, if_pos]
  exact List.any_eq_true.mpr ⟨lock, hlock, hpoisoned⟩

theorem perform_of_unpoisoned {board : Board} {call : Call}
    (hsound : ∀ lock ∈ call.locks, board.isPoisoned lock = false) (caller : Caller) :
    board.perform call caller = (.ok (board.act call caller).1, (board.act call caller).2) := by
  rw [perform_eq, if_neg]
  intro hany
  rcases List.any_eq_true.mp hany with ⟨lock, hlock, hpoisoned⟩
  rw [hsound lock hlock] at hpoisoned
  cases hpoisoned

theorem perform_of_isSound {board : Board} (hsound : board.IsSound) (call : Call)
    (caller : Caller) :
    board.perform call caller = (.ok (board.act call caller).1, (board.act call caller).2) :=
  perform_of_unpoisoned (fun lock _ => hsound lock) caller

theorem perform_cases (board : Board) (call : Call) (caller : Caller) :
    ((∃ lock ∈ call.locks, board.isPoisoned lock = true) ∧
        board.perform call caller = (.error (.ofCause .poisonedLock), board)) ∨
      ((∀ lock ∈ call.locks, board.isPoisoned lock = false) ∧
        board.perform call caller = (.ok (board.act call caller).1, (board.act call caller).2)) := by
  by_cases hpoisoned : ∃ lock ∈ call.locks, board.isPoisoned lock = true
  · rcases hpoisoned with ⟨lock, hlock, hpoison⟩
    exact Or.inl ⟨⟨lock, hlock, hpoison⟩, perform_of_poisoned hlock hpoison caller⟩
  · have hsound : ∀ lock ∈ call.locks, board.isPoisoned lock = false := by
      intro lock hlock
      cases hlocked : board.isPoisoned lock with
      | false => rfl
      | true => exact absurd ⟨lock, hlock, hlocked⟩ hpoisoned
    exact Or.inr ⟨hsound, perform_of_unpoisoned hsound caller⟩

theorem isPoisoned_perform (board : Board) (call : Call) (caller : Caller) (lock : Lock) :
    (board.perform call caller).2.isPoisoned lock = board.isPoisoned lock := by
  rcases perform_cases board call caller with ⟨_, hperform⟩ | ⟨_, hperform⟩
  · rw [hperform]
  · rw [hperform]
    exact isPoisoned_act board call caller lock

/-!
# Boards at rest

While a lock is poisoned nothing can be written, since every call that writes needs both locks.
-/

theorem perform_snd_of_poisoned {board : Board} {lock : Lock}
    (hpoisoned : board.isPoisoned lock = true) (call : Call) (caller : Caller) :
    (board.perform call caller).2 = board := by
  rcases perform_cases board call caller with ⟨_, hperform⟩ | ⟨hsound, hperform⟩
  · rw [hperform]
  · rw [hperform]
    have hunlocked : lock ∉ call.locks := by
      intro hlock
      rw [hsound lock hlock] at hpoisoned
      cases hpoisoned
    cases call with
    | post message => cases lock <;> simp [Call.locks] at hunlocked
    | get => cases lock <;> simp [Call.locks] at hunlocked
    | latest => rfl
    | hasNew => rfl
    | clear => cases lock <;> simp [Call.locks] at hunlocked

/-- The entries and the flag are the same, and no poisoned lock is sound again. -/
structure Rests (board after : Board) : Prop where
  log_eq : after.log = board.log
  unread_eq : after.unread = board.unread
  poisoned : ∀ lock, board.isPoisoned lock = true → after.isPoisoned lock = true

theorem Rests.refl (board : Board) : board.Rests board :=
  ⟨rfl, rfl, fun _ h => h⟩

theorem Rests.trans {board middle after : Board} (hfirst : board.Rests middle)
    (hsecond : middle.Rests after) : board.Rests after where
  log_eq := hsecond.log_eq.trans hfirst.log_eq
  unread_eq := hsecond.unread_eq.trans hfirst.unread_eq
  poisoned := fun lock hlock => hsecond.poisoned lock (hfirst.poisoned lock hlock)

theorem rests_poison (board : Board) (lock : Lock) : board.Rests (board.poison lock) := by
  cases lock with
  | log =>
      refine ⟨rfl, rfl, ?_⟩
      intro lock hlock
      cases lock with
      | log => rfl
      | flag => exact hlock
  | flag =>
      refine ⟨rfl, rfl, ?_⟩
      intro lock hlock
      cases lock with
      | log => exact hlock
      | flag => rfl

end Board
end MessageBoard
