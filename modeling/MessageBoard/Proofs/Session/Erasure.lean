import MessageBoard.Proofs.Session.Parallel
import MessageBoard.Proofs.Session.Poisoning

/-!
# Calls that could be left out

Looking at the latest entry or at the flag leaves no trace, and neither does a call that fails.  A
session from which such calls are erased goes on exactly as before.  Reading the log leaves a trace
in the flag alone: without it the flag may be raised where it would have been down, which is seen by
those who ask for the flag and by no one else.
-/

namespace MessageBoard

/-- The items that remain when the marked ones are erased; what has no mark remains. -/
def unmarked {α : Type} : List Bool → List α → List α
  | true :: marks, _ :: xs => unmarked marks xs
  | false :: marks, x :: xs => x :: unmarked marks xs
  | [], xs => xs
  | _ :: _, [] => []

theorem unmarked_nil {α : Type} (marks : List Bool) : unmarked marks ([] : List α) = [] := by
  cases marks with
  | nil => rfl
  | cons mark marks => cases mark <;> rfl

namespace Session

/-- Each marked step may be erased from the session in which it is taken. -/
def MayErase (erasable : Session → Step → Prop) (session : Session) : List Bool → List Step → Prop
  | mark :: marks, step :: steps =>
      (mark = true → erasable session step) ∧ (session.step step).2.MayErase erasable marks steps
  | _, _ => True

/-!
# Calls without a trace
-/

inductive IsIdle (session : Session) : Step → Prop where
  | latest (handle : Nat) (caller : Caller) : IsIdle session (.call handle .latest caller)
  | hasNew (handle : Nat) (caller : Caller) : IsIdle session (.call handle .hasNew caller)
  | failed {handle : Nat} {call : Call} {caller : Caller} (h : session.Fails handle call caller) :
      IsIdle session (.call handle call caller)

theorem step_call_snd_of_perform {call : Call} {caller : Caller}
    (h : ∀ board : Board, (board.perform call caller).2 = board) (session : Session)
    (handle : Nat) : (session.step (.call handle call caller)).2 = session := by
  cases hfound : session.boardOf? handle with
  | none => rw [step_call_of_none hfound]
  | some found =>
      rw [step_call_of_some hfound, h]
      exact setBoard_self (boardOf?_eq_some_iff.mp hfound).2

theorem Fails.step_snd {session : Session} {handle : Nat} {call : Call} {caller : Caller}
    (h : session.Fails handle call caller) :
    (session.step (.call handle call caller)).2 = session := by
  rcases h with ⟨failure, hfailure⟩
  cases hfound : session.boardOf? handle with
  | none => rw [step_call_of_none hfound]
  | some found => exact ((obeysLocks_of_boardOf? hfound).failure call caller failure hfailure).2

theorem IsIdle.step_snd {session : Session} {step : Step} (h : session.IsIdle step) :
    (session.step step).2 = session := by
  have hquiet : ∀ (board : Board) (call : Call) (caller : Caller),
      (board.act call caller).2 = board → (board.perform call caller).2 = board := by
    intro board call caller hact
    rcases board.perform_cases call caller with ⟨-, hperform⟩ | ⟨-, hperform⟩
    · rw [hperform]
    · rw [hperform, hact]
  cases h with
  | latest handle caller =>
      exact step_call_snd_of_perform (fun board => hquiet board .latest caller rfl) session handle
  | hasNew handle caller =>
      exact step_call_snd_of_perform (fun board => hquiet board .hasNew caller rfl) session handle
  | failed hfails => exact hfails.step_snd

theorem run_unmarked_of_isIdle {session : Session} {marks : List Bool} {steps : List Step}
    (h : session.MayErase IsIdle marks steps) :
    session.run (unmarked marks steps) =
      (unmarked marks (session.run steps).1, (session.run steps).2) := by
  induction steps generalizing session marks with
  | nil =>
      rw [unmarked_nil, run_nil, unmarked_nil]
  | cons step steps ih =>
      cases marks with
      | nil => rfl
      | cons mark marks =>
          have hrest := ih h.2
          rw [run_cons]
          cases mark with
          | true =>
              rw [(h.1 rfl).step_snd] at hrest ⊢
              exact hrest
          | false =>
              show session.run (step :: unmarked marks steps) = _
              rw [run_cons, hrest]
              rfl

/-!
# Calls that lower the flag
-/

/-- A call without a trace, or a `get` that succeeds. -/
inductive IsReading (session : Session) : Step → Prop where
  | idle {step : Step} (h : session.IsIdle step) : IsReading session step
  | get {handle : Nat} {caller : Caller} {reply : Reply}
      (h : (session.step (.call handle .get caller)).1 = .reply (.ok reply)) :
      IsReading session (.call handle .get caller)

end Session

/-!
# Raised flags

Without some of its `get` calls a session has the same logs and the same poisoned locks, and the
flags that were raised are raised.  A call cannot tell such boards apart unless it asks for the
flag.
-/

/-- Another board differs from a board at most by a raised flag. -/
structure Board.Heightens (board other : Board) : Prop where
  log_eq : other.log = board.log
  unread : board.unread = true → other.unread = true
  isPoisoned_eq : ∀ lock, other.isPoisoned lock = board.isPoisoned lock

namespace Board.Heightens

variable {board other : Board}

theorem refl (board : Board) : board.Heightens board :=
  ⟨rfl, id, fun _ => rfl⟩

theorem trans {last : Board} (h : board.Heightens other) (hlast : other.Heightens last) :
    board.Heightens last where
  log_eq := hlast.log_eq.trans h.log_eq
  unread := fun hunread => hlast.unread (h.unread hunread)
  isPoisoned_eq := fun lock => (hlast.isPoisoned_eq lock).trans (h.isPoisoned_eq lock)

theorem act_snd (h : board.Heightens other) (call : Call) (caller : Caller) :
    (board.act call caller).2.Heightens (other.act call caller).2 where
  log_eq := by cases call <;> simp [act, h.log_eq]
  unread := by
    cases call with
    | post message => exact fun _ => rfl
    | get => exact id
    | latest => exact h.unread
    | hasNew => exact h.unread
    | clear => exact id
  isPoisoned_eq := by
    intro lock
    rw [isPoisoned_act, isPoisoned_act]
    exact h.isPoisoned_eq lock

theorem act_fst (h : board.Heightens other) {call : Call} (hcall : call ≠ .hasNew)
    (caller : Caller) : (other.act call caller).1 = (board.act call caller).1 := by
  cases call with
  | hasNew => exact absurd rfl hcall
  | post message => rfl
  | get => exact congrArg (fun log : Log => Reply.entries log.entries) h.log_eq
  | latest => exact congrArg (fun log : Log => Reply.entry log.last?) h.log_eq
  | clear => rfl

theorem any_isPoisoned (h : board.Heightens other) (call : Call) :
    call.locks.any other.isPoisoned = call.locks.any board.isPoisoned :=
  congrArg call.locks.any (funext h.isPoisoned_eq)

theorem perform_snd (h : board.Heightens other) (call : Call) (caller : Caller) :
    (board.perform call caller).2.Heightens (other.perform call caller).2 := by
  rw [perform_eq, perform_eq, h.any_isPoisoned]
  by_cases hpoisoned : call.locks.any board.isPoisoned = true
  · rw [if_pos hpoisoned, if_pos hpoisoned]
    exact h
  · rw [if_neg hpoisoned, if_neg hpoisoned]
    exact h.act_snd call caller

theorem perform_fst (h : board.Heightens other) {call : Call} (hcall : call ≠ .hasNew)
    (caller : Caller) : (other.perform call caller).1 = (board.perform call caller).1 := by
  rw [perform_eq, perform_eq, h.any_isPoisoned]
  by_cases hpoisoned : call.locks.any board.isPoisoned = true
  · rw [if_pos hpoisoned, if_pos hpoisoned]
  · rw [if_neg hpoisoned, if_neg hpoisoned, h.act_fst hcall]

theorem perform_hasNew (h : board.Heightens other) (caller : Caller) :
    (other.perform .hasNew caller).1 = (board.perform .hasNew caller).1 ∨
      (board.perform .hasNew caller).1 = .ok (.flag false) ∧
        (other.perform .hasNew caller).1 = .ok (.flag true) := by
  rw [perform_eq, perform_eq, h.any_isPoisoned]
  by_cases hpoisoned : Call.hasNew.locks.any board.isPoisoned = true
  · rw [if_pos hpoisoned, if_pos hpoisoned]
    exact Or.inl rfl
  · rw [if_neg hpoisoned, if_neg hpoisoned]
    show Except.ok (Reply.flag other.unread) = Except.ok (Reply.flag board.unread) ∨
      Except.ok (Reply.flag board.unread) = _ ∧ Except.ok (Reply.flag other.unread) = _
    cases hunread : board.unread with
    | true =>
        rw [h.unread hunread]
        exact Or.inl rfl
    | false =>
        cases other.unread with
        | true => exact Or.inr ⟨rfl, rfl⟩
        | false => exact Or.inl rfl

theorem poison (h : board.Heightens other) (lock : Lock) :
    (board.poison lock).Heightens (other.poison lock) := by
  cases lock with
  | log =>
      refine ⟨h.log_eq, h.unread, ?_⟩
      intro lock
      cases lock with
      | log => rfl
      | flag => exact h.isPoisoned_eq .flag
  | flag =>
      refine ⟨h.log_eq, h.unread, ?_⟩
      intro lock
      cases lock with
      | log => exact h.isPoisoned_eq .log
      | flag => rfl

end Board.Heightens

theorem Board.heightens_perform_get (board : Board) (caller : Caller) :
    (board.perform .get caller).2.Heightens board := by
  rcases board.perform_cases .get caller with ⟨-, hperform⟩ | ⟨-, hperform⟩
  · rw [hperform]
    exact .refl board
  · rw [hperform]
    refine ⟨rfl, ?_, ?_⟩
    · intro hunread
      cases hunread
    · intro lock
      cases lock <;> rfl

namespace Session

structure Heightens (session other : Session) : Prop where
  storage_eq : other.storage = session.storage
  parallel : Parallel (fun _ => Board.Heightens) session other

/-- Two outcomes of a step: the same, or a flag that is down and one that is raised. -/
inductive HeightensAt : Step → Outcome → Outcome → Prop where
  | same {step : Step} {outcome other : Outcome} (h : other = outcome) :
      HeightensAt step outcome other
  | raised (handle : Nat) (caller : Caller) :
      HeightensAt (.call handle .hasNew caller) (.reply (.ok (.flag false)))
        (.reply (.ok (.flag true)))

inductive AllHeighten : List Step → List Outcome → List Outcome → Prop where
  | nil : AllHeighten [] [] []
  | cons {step : Step} {steps : List Step} {outcome other : Outcome}
      {outcomes others : List Outcome} (hfirst : HeightensAt step outcome other)
      (hrest : AllHeighten steps outcomes others) :
      AllHeighten (step :: steps) (outcome :: outcomes) (other :: others)

namespace Heightens

variable {session other : Session}

theorem refl (session : Session) : session.Heightens session := by
  refine ⟨rfl, rfl, rfl, ?_⟩
  intro number board twin hboard htwin
  rw [hboard] at htwin
  cases htwin
  exact .refl board

theorem keep (h : session.Heightens other) {ε : Type} (attempt : Except ε Storage) :
    (session.keep attempt).Heightens (other.keep attempt) := by
  refine ⟨?_, h.parallel.keep attempt attempt⟩
  cases attempt with
  | error fault => exact h.storage_eq
  | ok storage => rfl

theorem addBoard (h : session.Heightens other) (board : Board) :
    (session.addBoard board).2.Heightens (other.addBoard board).2 :=
  ⟨h.storage_eq, h.parallel.addBoard (.refl board)⟩

theorem step_call (h : session.Heightens other) (handle : Nat) (call : Call) (caller : Caller) :
    HeightensAt (.call handle call caller) (session.step (.call handle call caller)).1
        (other.step (.call handle call caller)).1 ∧
      (session.step (.call handle call caller)).2.Heightens
        (other.step (.call handle call caller)).2 := by
  cases hfound : session.boardOf? handle with
  | none =>
      rw [step_call_of_none hfound, step_call_of_none (h.parallel.boardOf?_eq_none hfound)]
      exact ⟨.same rfl, h⟩
  | some found =>
      rcases h.parallel.exists_boardOf? hfound with ⟨twin, htwin, hheightens⟩
      rw [step_call_of_some hfound, step_call_of_some htwin]
      refine ⟨?_, h.storage_eq, h.parallel.setBoard (hheightens.perform_snd call caller)⟩
      by_cases hcall : call = .hasNew
      · subst hcall
        rcases hheightens.perform_hasNew caller with hsame | ⟨hdown, hraised⟩
        · exact .same (congrArg Outcome.reply hsame)
        · rw [hdown, hraised]
          exact .raised handle caller
      · exact .same (congrArg Outcome.reply (hheightens.perform_fst hcall caller))

theorem step (h : session.Heightens other) (step : Step) :
    HeightensAt step (session.step step).1 (other.step step).1 ∧
      (session.step step).2.Heightens (other.step step).2 := by
  cases step with
  | openBoard settings caller =>
      exact ⟨.same (h.parallel.outcome_addBoard _ _), h.addBoard _⟩
  | openFile path caller =>
      simp only [Session.step, h.storage_eq]
      exact ⟨.same (h.parallel.outcome_addBoard _ _), h.addBoard _⟩
  | clone handle =>
      cases hfound : session.boardOf? handle with
      | none =>
          rw [step_clone_of_none hfound, step_clone_of_none (h.parallel.boardOf?_eq_none hfound)]
          exact ⟨.same rfl, h⟩
      | some found =>
          rcases h.parallel.exists_boardOf? hfound with ⟨twin, htwin, -⟩
          rw [step_clone_of_some hfound, step_clone_of_some htwin]
          refine ⟨.same ?_, h.storage_eq, h.parallel.addHandle found.1⟩
          rw [h.parallel.handles_eq]
  | call handle call caller => exact h.step_call handle call caller
  | poison handle lock =>
      cases hfound : session.boardOf? handle with
      | none =>
          rw [step_poison_of_none hfound, step_poison_of_none (h.parallel.boardOf?_eq_none hfound)]
          exact ⟨.same rfl, h⟩
      | some found =>
          rcases h.parallel.exists_boardOf? hfound with ⟨twin, htwin, hheightens⟩
          rw [step_poison_of_some hfound, step_poison_of_some htwin]
          exact ⟨.same rfl, h.storage_eq, h.parallel.setBoard (hheightens.poison lock)⟩
  | load path =>
      simp only [Session.step, h.storage_eq]
      exact ⟨.same rfl, h⟩
  | save path settings =>
      simp only [Session.step, h.storage_eq]
      cases settings.save? session.storage path with
      | none => exact ⟨.same rfl, h⟩
      | some attempt => exact ⟨.same rfl, h.keep attempt⟩
  | write path content =>
      simp only [Session.step, h.storage_eq]
      exact ⟨.same rfl, h.keep _⟩
  | makeDirectory path =>
      simp only [Session.step, h.storage_eq]
      exact ⟨.same rfl, h.keep _⟩

theorem step_left (h : session.Heightens other) {step : Step} (hstep : session.IsReading step) :
    (session.step step).2.Heightens other := by
  cases hstep with
  | idle hidle =>
      rw [hidle.step_snd]
      exact h
  | @get handle caller reply hreply =>
      cases hfound : session.boardOf? handle with
      | none =>
          rw [step_call_of_none hfound]
          exact h
      | some found =>
          rw [step_call_of_some hfound]
          refine ⟨h.storage_eq, h.parallel.setBoard_left ?_⟩
          intro twin htwin
          have hboard := (boardOf?_eq_some_iff.mp hfound).2
          exact (found.2.heightens_perform_get caller).trans
            (h.parallel.boards found.1 found.2 twin hboard htwin)

theorem run_unmarked (h : session.Heightens other) {marks : List Bool} {steps : List Step}
    (hmay : session.MayErase IsReading marks steps) :
    AllHeighten (unmarked marks steps) (unmarked marks (session.run steps).1)
        (other.run (unmarked marks steps)).1 ∧
      (session.run steps).2.Heightens (other.run (unmarked marks steps)).2 := by
  -- A step that is erased moves the first session alone, any other moves both.
  induction steps generalizing session other marks with
  | nil =>
      rw [unmarked_nil, run_nil, run_nil, unmarked_nil]
      exact ⟨.nil, h⟩
  | cons step steps ih =>
      rcases h.step step with ⟨houtcome, hafter⟩
      cases marks with
      | nil =>
          have hnone : (session.step step).2.MayErase IsReading [] steps := trivial
          rcases ih hafter hnone with ⟨hrest, hlast⟩
          exact ⟨.cons houtcome hrest, hlast⟩
      | cons mark marks =>
          cases mark with
          | true => exact ih (h.step_left (hmay.1 rfl)) hmay.2
          | false =>
              rcases ih hafter hmay.2 with ⟨hrest, hlast⟩
              exact ⟨.cons houtcome hrest, hlast⟩

end Heightens

/-!
# Erasing calls from a session
-/

theorem run_unmarked_eq_and_allHeighten (session : Session) (marks : List Bool)
    (steps : List Step) :
    (session.MayErase IsIdle marks steps →
      session.run (unmarked marks steps) =
        (unmarked marks (session.run steps).1, (session.run steps).2)) ∧
    (session.MayErase IsReading marks steps →
      AllHeighten (unmarked marks steps) (unmarked marks (session.run steps).1)
          (session.run (unmarked marks steps)).1 ∧
        (session.run steps).2.Heightens (session.run (unmarked marks steps)).2) :=
  ⟨run_unmarked_of_isIdle, (Heightens.refl session).run_unmarked⟩

/-- A message is posted, noticed and read through two handles, and then a lock is poisoned. -/
def watchedSteps (caller : Caller) : List Step :=
  [.clone 0, .call 1 (.post (.plain "a")) caller, .call 0 .hasNew caller, .call 1 .get caller,
    .call 0 .hasNew caller, .poison 1 .flag, .call 0 .clear caller, .call 1 .latest caller]

/-- The first look at the flag and the `clear` that fails. -/
def idleMarks : List Bool := [false, false, true, false, false, false, true]

/-- The `get` as well, so that the second look at the flag sees it raised. -/
def readingMarks : List Bool := [false, false, true, true, false, false, true]

theorem erasing_watchedSteps :
    ∃ session steps,
      session = (initial.step (.openBoard ⟨2, some "Welcome"⟩ ⟨.main, ⟨0, 0⟩⟩)).2 ∧
      steps = watchedSteps ⟨.main, ⟨1, 0⟩⟩ ∧
      session.MayErase IsIdle idleMarks steps ∧
      session.run (unmarked idleMarks steps) =
        (unmarked idleMarks (session.run steps).1, (session.run steps).2) ∧
      session.MayErase IsReading readingMarks steps ∧
      AllHeighten (unmarked readingMarks steps) (unmarked readingMarks (session.run steps).1)
        (session.run (unmarked readingMarks steps)).1 ∧
      (session.run steps).2.Heightens (session.run (unmarked readingMarks steps)).2 := by
  have hidle : (initial.step (.openBoard ⟨2, some "Welcome"⟩ ⟨.main, ⟨0, 0⟩⟩)).2.MayErase IsIdle
      idleMarks (watchedSteps ⟨.main, ⟨1, 0⟩⟩) :=
    ⟨nofun, nofun, fun _ => .hasNew _ _, nofun, nofun, nofun, fun _ => .failed ⟨_, rfl⟩, trivial⟩
  have hreading : (initial.step (.openBoard ⟨2, some "Welcome"⟩ ⟨.main, ⟨0, 0⟩⟩)).2.MayErase
      IsReading readingMarks (watchedSteps ⟨.main, ⟨1, 0⟩⟩) :=
    ⟨nofun, nofun, fun _ => .idle (.hasNew _ _), fun _ => .get rfl, nofun, nofun,
      fun _ => .idle (.failed ⟨_, rfl⟩), trivial⟩
  exact ⟨_, _, rfl, rfl, hidle, (run_unmarked_eq_and_allHeighten _ _ _).1 hidle, hreading,
    (run_unmarked_eq_and_allHeighten _ _ _).2 hreading⟩

end Session
end MessageBoard
