import MessageBoard.Proofs.Board.Locks

/-!
# Calls that overlap

Several threads call one board at the same time.  A call is not one step here: it takes its locks
one after another, attends to the log, sets the flag, and gives its locks back one after another.
Between any two of these steps the other threads may take steps of their own; a thread only has to
wait for a lock that someone holds.
-/

namespace MessageBoard

/-!
# The two parts of a call's work

What a call does with its locks falls into two parts.  It first reads what it is asked for and
changes the log, and then it sets the flag.
-/

/-- What a call sets the flag to, if it sets it at all. -/
def Call.flagAfter? : Call → Option Bool
  | .post _ => some true
  | .get => some false
  | .latest => none
  | .hasNew => none
  | .clear => some false

namespace Board

/-- The reply to a call, and the board before the call has set the flag. -/
def attend (board : Board) (call : Call) (caller : Caller) : Reply × Board :=
  match call with
  | .post message => (.done, { board with log := board.log.add (.ofCaller message caller) })
  | .get => (.entries board.log.entries, board)
  | .latest => (.entry board.log.last?, board)
  | .hasNew => (.flag board.unread, board)
  | .clear => (.done, { board with log := board.log.clear })

def settle (board : Board) (flag? : Option Bool) : Board :=
  { board with unread := flag?.getD board.unread }

theorem act_eq (board : Board) (call : Call) (caller : Caller) :
    board.act call caller =
      ((board.attend call caller).1, (board.attend call caller).2.settle call.flagAfter?) := by
  cases call <;> rfl

/-- The work of a call is to take its locks in their order, to attend to the log, and to settle. -/
theorem work_eq (caller : Caller) (call : Call) :
    work caller call = do
      call.locks.forM take
      let reply ← modifyGet fun board => board.attend call caller
      modify fun board => board.settle call.flagAfter?
      return reply := by
  funext board
  rcases board with ⟨log, unread, logPoisoned, flagPoisoned⟩
  cases call <;> cases logPoisoned <;> cases flagPoisoned <;> rfl

end Board

/-!
# Threads in the middle of a call
-/

structure Request where
  handle : Nat
  call : Call

/-- How far a thread has come with a call. -/
inductive Stage where
  | outside
  /-- The first locks of the call are taken, so many of them. -/
  | entering (request : Request) (taken : Nat)
  /-- All locks are taken and the reply is known, but the flag is not yet set. -/
  | attending (request : Request) (reply : Reply)
  /-- The work is done, and the first locks are still held, so many of them. -/
  | leaving (request : Request) (reply : Reply) (kept : Nat)

def Stage.held : Stage → List Lock
  | outside => []
  | entering request taken => request.call.locks.take taken
  | attending request _ => request.call.locks
  | leaving request _ kept => request.call.locks.take kept

/-- A thread with the calls that it has still to begin, and the replies to those it is done with. -/
structure Visitor where
  thread : Thread
  stage : Stage
  rest : List Request
  replies : List Reply

namespace Visitor

/-- The next step of a thread, unless there is none left or it has to wait for a lock. -/
def step? (visitor : Visitor) (board : Board) (isFree : Lock → Bool) (now : Calendar.Instant) :
    Option (Visitor × Board) :=
  match visitor.stage with
  | .outside =>
      match visitor.rest with
      | [] => none
      | request :: rest => some ({ visitor with stage := .entering request 0, rest }, board)
  | .entering request taken =>
      match request.call.locks[taken]? with
      | some lock =>
          if isFree lock then
            some ({ visitor with stage := .entering request (taken + 1) }, board)
          else none
      | none =>
          let (reply, board) := board.attend request.call ⟨visitor.thread, now⟩
          some ({ visitor with stage := .attending request reply }, board)
  | .attending request reply =>
      some ({ visitor with stage := .leaving request reply request.call.locks.length },
        board.settle request.call.flagAfter?)
  | .leaving request reply (kept + 1) =>
      some ({ visitor with stage := .leaving request reply kept }, board)
  | .leaving _ reply 0 =>
      some ({ visitor with stage := .outside, replies := visitor.replies ++ [reply] }, board)

/-- All the ways in which a thread can take a step. -/
inductive Moves (board : Board) (isFree : Lock → Bool) (now : Calendar.Instant) :
    Visitor → Visitor → Board → Prop where
  | begins {thread : Thread} {request : Request} {rest : List Request} {replies : List Reply} :
      Moves board isFree now ⟨thread, .outside, request :: rest, replies⟩
        ⟨thread, .entering request 0, rest, replies⟩ board
  | takes {thread : Thread} {request : Request} {taken : Nat} {rest : List Request}
      {replies : List Reply} {lock : Lock} (hnext : request.call.locks[taken]? = some lock)
      (hfree : isFree lock = true) :
      Moves board isFree now ⟨thread, .entering request taken, rest, replies⟩
        ⟨thread, .entering request (taken + 1), rest, replies⟩ board
  | attends {thread : Thread} {request : Request} {taken : Nat} {rest : List Request}
      {replies : List Reply} (hall : request.call.locks[taken]? = none) :
      Moves board isFree now ⟨thread, .entering request taken, rest, replies⟩
        ⟨thread, .attending request (board.attend request.call ⟨thread, now⟩).1, rest, replies⟩
        (board.attend request.call ⟨thread, now⟩).2
  | settles {thread : Thread} {request : Request} {reply : Reply} {rest : List Request}
      {replies : List Reply} :
      Moves board isFree now ⟨thread, .attending request reply, rest, replies⟩
        ⟨thread, .leaving request reply request.call.locks.length, rest, replies⟩
        (board.settle request.call.flagAfter?)
  | releases {thread : Thread} {request : Request} {reply : Reply} {kept : Nat}
      {rest : List Request} {replies : List Reply} :
      Moves board isFree now ⟨thread, .leaving request reply (kept + 1), rest, replies⟩
        ⟨thread, .leaving request reply kept, rest, replies⟩ board
  | returns {thread : Thread} {request : Request} {reply : Reply} {rest : List Request}
      {replies : List Reply} :
      Moves board isFree now ⟨thread, .leaving request reply 0, rest, replies⟩
        ⟨thread, .outside, rest, replies ++ [reply]⟩ board

theorem moves_of_step? {visitor after : Visitor} {board board' : Board} {isFree : Lock → Bool}
    {now : Calendar.Instant} (h : visitor.step? board isFree now = some (after, board')) :
    Moves board isFree now visitor after board' := by
  rcases visitor with ⟨thread, stage, rest, replies⟩
  cases stage with
  | outside =>
      cases rest with
      | nil => cases h
      | cons request rest =>
          cases h
          exact .begins
  | entering request taken =>
      simp only [step?] at h
      split at h
      · rename_i lock hnext
        split at h
        · rename_i hfree
          cases h
          exact .takes hnext hfree
        · cases h
      · rename_i hall
        cases h
        exact .attends hall
  | attending request reply =>
      cases h
      exact .settles
  | leaving request reply kept =>
      cases kept with
      | zero =>
          cases h
          exact .returns
      | succ kept =>
          cases h
          exact .releases

theorem Moves.held {visitor after : Visitor} {board board' : Board} {isFree : Lock → Bool}
    {now : Calendar.Instant} (h : Moves board isFree now visitor after board') {lock : Lock}
    (hlock : lock ∈ after.stage.held) : lock ∈ visitor.stage.held ∨ isFree lock = true := by
  cases h with
  | begins => cases hlock
  | @takes _ request taken _ _ next hnext hfree =>
      have htake : request.call.locks.take (taken + 1) = request.call.locks.take taken ++ [next] := by
        rw [List.take_add_one, hnext]
        rfl
      have hmem : lock ∈ request.call.locks.take taken ++ [next] := htake ▸ hlock
      rcases List.mem_append.mp hmem with hold | hnew
      · exact Or.inl hold
      · exact Or.inr (List.mem_singleton.mp hnew ▸ hfree)
  | @attends _ request taken _ _ hall =>
      have hlength : request.call.locks.length ≤ taken := List.getElem?_eq_none_iff.mp hall
      left
      show lock ∈ request.call.locks.take taken
      rwa [List.take_of_length_le hlength]
  | settles => exact Or.inl (List.mem_of_mem_take hlock)
  | @releases _ request _ kept =>
      left
      exact List.take_subset_take_left request.call.locks (Nat.le_succ kept) hlock
  | returns => cases hlock

end Visitor

/-!
# Threads around a board
-/

structure Crowd where
  board : Board
  visitors : List Visitor

structure Turn where
  visitor : Nat
  now : Calendar.Instant

/-- What a thread sets out to do. -/
structure Program where
  thread : Thread
  requests : List Request

namespace Crowd

def start (board : Board) (programs : List Program) : Crowd :=
  ⟨board, programs.map fun program => ⟨program.thread, .outside, program.requests, []⟩⟩

def isFree (crowd : Crowd) (lock : Lock) : Bool :=
  crowd.visitors.all fun visitor => !visitor.stage.held.contains lock

def step? (crowd : Crowd) (turn : Turn) : Option Crowd :=
  match crowd.visitors[turn.visitor]? with
  | none => none
  | some visitor =>
      (visitor.step? crowd.board crowd.isFree turn.now).map fun (after, board) =>
        ⟨board, crowd.visitors.set turn.visitor after⟩

def run? (crowd : Crowd) : List Turn → Option Crowd
  | [] => some crowd
  | turn :: turns => (crowd.step? turn).bind fun crowd => crowd.run? turns

theorem step?_eq_some {crowd crowd' : Crowd} {turn : Turn} (h : crowd.step? turn = some crowd') :
    ∃ visitor after board, crowd.visitors[turn.visitor]? = some visitor ∧
      Visitor.Moves crowd.board crowd.isFree turn.now visitor after board ∧
      crowd' = ⟨board, crowd.visitors.set turn.visitor after⟩ := by
  unfold step? at h
  split at h
  · cases h
  · rename_i visitor hvisitor
    rcases Option.map_eq_some_iff.mp h with ⟨⟨after, board⟩, hstep, hafter⟩
    exact ⟨visitor, after, board, hvisitor, Visitor.moves_of_step? hstep, hafter.symm⟩

theorem not_mem_held_of_isFree {crowd : Crowd} {lock : Lock} (hfree : crowd.isFree lock = true)
    {visitor : Visitor} (hvisitor : visitor ∈ crowd.visitors) : lock ∉ visitor.stage.held := by
  have hfree' := List.all_eq_true.mp hfree visitor hvisitor
  simpa using hfree'

theorem exists_held_of_not_isFree {crowd : Crowd} {lock : Lock} (hfree : crowd.isFree lock = false) :
    ∃ visitor ∈ crowd.visitors, lock ∈ visitor.stage.held := by
  rcases List.all_eq_false.mp hfree with ⟨visitor, hvisitor, hheld⟩
  exact ⟨visitor, hvisitor, by simpa using hheld⟩

/-!
# One thread for each lock
-/

def Excludes (crowd : Crowd) : Prop :=
  ∀ (lock : Lock) (i j : Nat) (visitor other : Visitor),
    crowd.visitors[i]? = some visitor → crowd.visitors[j]? = some other →
    lock ∈ visitor.stage.held → lock ∈ other.stage.held → i = j

theorem getElem?_set_cases {visitors : List Visitor} {i j : Nat} {after found : Visitor}
    (h : (visitors.set i after)[j]? = some found) :
    j = i ∧ found = after ∨ j ≠ i ∧ visitors[j]? = some found := by
  by_cases hsame : i = j
  · subst hsame
    rw [List.getElem?_set_self'] at h
    rcases Option.map_eq_some_iff.mp h with ⟨_, _, hfound⟩
    exact Or.inl ⟨rfl, hfound.symm⟩
  · rw [List.getElem?_set_ne hsame] at h
    exact Or.inr ⟨fun heq => hsame heq.symm, h⟩

theorem Excludes.step {crowd crowd' : Crowd} {turn : Turn} (hexcludes : crowd.Excludes)
    (h : crowd.step? turn = some crowd') : crowd'.Excludes := by
  rcases step?_eq_some h with ⟨visitor, after, board, hvisitor, hmoves, rfl⟩
  -- What the acting thread holds after its step, no other thread held before it.
  have hacting : ∀ lock j other, j ≠ turn.visitor → crowd.visitors[j]? = some other →
      lock ∈ after.stage.held → lock ∉ other.stage.held := by
    intro lock j other hne hother hafter hheld
    rcases hmoves.held hafter with hbefore | hfree
    · exact hne (hexcludes lock j turn.visitor other visitor hother hvisitor hheld hbefore)
    · exact not_mem_held_of_isFree hfree (List.mem_of_getElem? hother) hheld
  intro lock i j first second hfirst hsecond hheld hheld'
  rcases getElem?_set_cases hfirst with ⟨rfl, rfl⟩ | ⟨hi, hbefore⟩
  · rcases getElem?_set_cases hsecond with ⟨rfl, rfl⟩ | ⟨hj, hbefore'⟩
    · rfl
    · exact absurd hheld' (hacting lock j second hj hbefore' hheld)
  · rcases getElem?_set_cases hsecond with ⟨rfl, rfl⟩ | ⟨hj, hbefore'⟩
    · exact absurd hheld (hacting lock i first hi hbefore hheld')
    · exact hexcludes lock i j first second hbefore hbefore' hheld hheld'

theorem excludes_start (board : Board) (programs : List Program) :
    (start board programs).Excludes := by
  intro lock i j visitor other hvisitor hother hheld _
  rcases List.mem_map.mp (List.mem_of_getElem? hvisitor) with ⟨program, _, rfl⟩
  cases hheld

end Crowd
end MessageBoard
