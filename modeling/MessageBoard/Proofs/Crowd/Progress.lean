import MessageBoard.Proofs.Crowd.Schedule

/-!
# Threads that wait for locks

The flag's lock is the last that a call takes, so whoever holds it waits for nothing.  Whoever holds
the log's lock waits at most for the flag's.  So as long as a thread has something left to do, some
thread can take a step; and since every call takes a fixed number of steps, every schedule can be
carried on until all threads are done.
-/

namespace MessageBoard

namespace Call

theorem getElem?_locks_of_flag (call : Call) {taken : Nat}
    (h : Lock.flag ∈ call.locks.take taken) : call.locks[taken]? = none := by
  rcases taken with _ | _ | taken
  · cases h
  · cases call <;> simp [locks] at h ⊢
  · cases call <;> simp [locks]

theorem getElem?_locks_of_log (call : Call) {taken : Nat} (h : Lock.log ∈ call.locks.take taken) :
    call.locks[taken]? = none ∨ call.locks[taken]? = some .flag := by
  rcases taken with _ | _ | taken
  · cases h
  · cases call <;> simp [locks] at h ⊢
  · cases call <;> simp [locks]

end Call

namespace Visitor

def IsDone (visitor : Visitor) : Prop := visitor.stage = .outside ∧ visitor.rest = []

theorem step?_isSome_or_waits {visitor : Visitor} (h : ¬ visitor.IsDone) (board : Board)
    (isFree : Lock → Bool) (now : Calendar.Instant) :
    (visitor.step? board isFree now).isSome = true ∨
      ∃ request taken lock, visitor.stage = .entering request taken ∧
        request.call.locks[taken]? = some lock ∧ isFree lock = false := by
  rcases visitor with ⟨thread, stage, rest, replies⟩
  cases stage with
  | outside =>
      cases rest with
      | nil => exact absurd ⟨rfl, rfl⟩ h
      | cons request rest => exact Or.inl rfl
  | entering request taken =>
      cases hnext : request.call.locks[taken]? with
      | none => exact Or.inl (by simp [step?, hnext])
      | some lock =>
          cases hfree : isFree lock with
          | true => exact Or.inl (by simp [step?, hnext, hfree])
          | false => exact Or.inr ⟨request, taken, lock, rfl, hnext, hfree⟩
  | attending request reply => exact Or.inl rfl
  | leaving request reply kept => cases kept <;> exact Or.inl rfl

/-- Who holds a lock has something left to do, and waits only for a lock that comes later. -/
theorem step?_isSome_or_waits_of_held {visitor : Visitor} {lock : Lock}
    (hheld : lock ∈ visitor.stage.held) (board : Board) (isFree : Lock → Bool)
    (now : Calendar.Instant) :
    (visitor.step? board isFree now).isSome = true ∨ lock = .log ∧ isFree .flag = false := by
  have hbusy : ¬ visitor.IsDone := by
    intro h
    rcases h with ⟨hstage, -⟩
    rw [hstage] at hheld
    cases hheld
  rcases step?_isSome_or_waits hbusy board isFree now with
    hstep | ⟨request, taken, next, hstage, hnext, hfree⟩
  · exact Or.inl hstep
  · rw [hstage] at hheld
    right
    cases lock with
    | flag =>
        rw [request.call.getElem?_locks_of_flag hheld] at hnext
        cases hnext
    | log =>
        rcases request.call.getElem?_locks_of_log hheld with hnone | hflag
        · rw [hnone] at hnext
          cases hnext
        · rw [hflag] at hnext
          cases hnext
          exact ⟨rfl, hfree⟩

/-!
# Steps that are left
-/

/-- A call begins and returns, its work has two parts, and it takes each lock and gives it back. -/
def stepsOf (request : Request) : Nat := 2 * request.call.locks.length + 4

def stepsOfAll : List Request → Nat
  | [] => 0
  | request :: rest => stepsOf request + stepsOfAll rest

def stepsIn : Stage → Nat
  | .outside => 0
  | .entering request taken =>
      (request.call.locks.length - taken) + request.call.locks.length + 3
  | .attending request _ => request.call.locks.length + 2
  | .leaving _ _ kept => kept + 1

def stepsLeft (visitor : Visitor) : Nat := stepsIn visitor.stage + stepsOfAll visitor.rest

theorem Moves.stepsLeft {visitor after : Visitor} {board board' : Board} {isFree : Lock → Bool}
    {now : Calendar.Instant} (h : Moves board isFree now visitor after board') :
    visitor.stepsLeft = after.stepsLeft + 1 := by
  cases h with
  | begins =>
      simp only [Visitor.stepsLeft, stepsIn, stepsOfAll, stepsOf]
      omega
  | takes hnext hfree =>
      have hlt := (List.getElem?_eq_some_iff.mp hnext).1
      simp only [Visitor.stepsLeft, stepsIn]
      omega
  | attends hall =>
      have hlength := List.getElem?_eq_none_iff.mp hall
      simp only [Visitor.stepsLeft, stepsIn]
      omega
  | settles =>
      simp only [Visitor.stepsLeft, stepsIn]
      omega
  | releases =>
      simp only [Visitor.stepsLeft, stepsIn]
      omega
  | returns =>
      simp only [Visitor.stepsLeft, stepsIn]
      omega

end Visitor

namespace Crowd

def IsDone (crowd : Crowd) : Prop := ∀ visitor ∈ crowd.visitors, visitor.IsDone

def CanStep (crowd : Crowd) : Prop := ∃ turn, (crowd.step? turn).isSome = true

theorem canStep_of_visitor {crowd : Crowd} {visitor : Visitor} (hvisitor : visitor ∈ crowd.visitors)
    (hstep : ∀ now, (visitor.step? crowd.board crowd.isFree now).isSome = true) :
    crowd.CanStep := by
  rcases List.mem_iff_getElem?.mp hvisitor with ⟨i, hi⟩
  refine ⟨⟨i, ⟨0, 0⟩⟩, ?_⟩
  simpa [step?, hi] using hstep ⟨0, 0⟩

theorem canStep_of_not_isFree_flag {crowd : Crowd} (hfree : crowd.isFree .flag = false) :
    crowd.CanStep := by
  rcases exists_held_of_not_isFree hfree with ⟨visitor, hvisitor, hheld⟩
  apply canStep_of_visitor hvisitor
  intro now
  rcases Visitor.step?_isSome_or_waits_of_held hheld crowd.board crowd.isFree now with
    hstep | ⟨hlock, -⟩
  · exact hstep
  · cases hlock

theorem canStep_of_not_isFree {crowd : Crowd} {lock : Lock} (hfree : crowd.isFree lock = false) :
    crowd.CanStep := by
  by_cases hflag : crowd.isFree .flag = false
  · exact canStep_of_not_isFree_flag hflag
  · rcases exists_held_of_not_isFree hfree with ⟨visitor, hvisitor, hheld⟩
    apply canStep_of_visitor hvisitor
    intro now
    rcases Visitor.step?_isSome_or_waits_of_held hheld crowd.board crowd.isFree now with
      hstep | ⟨-, hwaits⟩
    · exact hstep
    · exact absurd hwaits hflag

theorem canStep_of_not_isDone {crowd : Crowd} (h : ¬ crowd.IsDone) : crowd.CanStep := by
  by_cases hwaits : ∃ lock, crowd.isFree lock = false
  · rcases hwaits with ⟨lock, hfree⟩
    exact canStep_of_not_isFree hfree
  · have hbusy : ∃ visitor ∈ crowd.visitors, ¬ visitor.IsDone := by
      simpa [IsDone] using h
    rcases hbusy with ⟨visitor, hvisitor, hbusy⟩
    apply canStep_of_visitor hvisitor
    intro now
    rcases Visitor.step?_isSome_or_waits hbusy crowd.board crowd.isFree now with
      hstep | ⟨-, -, lock, -, -, hfree⟩
    · exact hstep
    · exact absurd ⟨lock, hfree⟩ hwaits

/-!
# Schedules that end
-/

def stepsLeftOf : List Visitor → Nat
  | [] => 0
  | visitor :: visitors => visitor.stepsLeft + stepsLeftOf visitors

def stepsLeft (crowd : Crowd) : Nat := stepsLeftOf crowd.visitors

theorem stepsLeftOf_set {visitors : List Visitor} {i : Nat} {visitor after : Visitor}
    (hvisitor : visitors[i]? = some visitor) (hsteps : visitor.stepsLeft = after.stepsLeft + 1) :
    stepsLeftOf visitors = stepsLeftOf (visitors.set i after) + 1 := by
  induction visitors generalizing i with
  | nil => cases hvisitor
  | cons first visitors ih =>
      cases i with
      | zero =>
          cases hvisitor
          simp only [List.set_cons_zero, stepsLeftOf]
          omega
      | succ i =>
          have hrest := ih (i := i) hvisitor
          simp only [List.set_cons_succ, stepsLeftOf]
          omega

theorem stepsLeft_step? {crowd crowd' : Crowd} {turn : Turn} (h : crowd.step? turn = some crowd') :
    crowd.stepsLeft = crowd'.stepsLeft + 1 := by
  rcases step?_eq_some h with ⟨visitor, after, board, hvisitor, hmoves, rfl⟩
  exact stepsLeftOf_set hvisitor hmoves.stepsLeft

theorem exists_run?_isDone (crowd : Crowd) :
    ∃ schedule final, crowd.run? schedule = some final ∧ final.IsDone := by
  induction hsteps : crowd.stepsLeft using Nat.strongRecOn generalizing crowd with
  | _ steps ih =>
      by_cases hdone : crowd.IsDone
      · exact ⟨[], crowd, rfl, hdone⟩
      · rcases canStep_of_not_isDone hdone with ⟨turn, hturn⟩
        rcases Option.isSome_iff_exists.mp hturn with ⟨next, hnext⟩
        have hleft := stepsLeft_step? hnext
        rcases ih next.stepsLeft (by omega) next rfl with ⟨schedule, final, hrun, hfinal⟩
        exact ⟨turn :: schedule, final, by rw [run?, hnext]; exact hrun, hfinal⟩

end Crowd
end MessageBoard
