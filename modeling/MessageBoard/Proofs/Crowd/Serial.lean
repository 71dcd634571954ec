import MessageBoard.Proofs.Crowd.Progress
import MessageBoard.Proofs.Crowd.Deeds

/-!
# Overlapping calls one at a time

Calls that overlap have the replies, and leave the board, that they would have if each had been made
in a single step: at the moment when it has all of its locks and attends to the log.  This moment
lies between the beginning of a call and its return, so a call that returned before another began
comes first.
-/

namespace MessageBoard

/-!
# The board that a crowd settles for

While a thread has yet to set the flag, the board is not what the calls made so far leave of it.
Such a thread holds both locks, so there is only one of them, and no other thread reads or writes
anything meanwhile.
-/

namespace Visitor

def pendingFlag? (visitor : Visitor) : Option Bool :=
  match visitor.stage with
  | .attending request _ => request.call.flagAfter?
  | _ => none

theorem mem_held_of_pendingFlag? {visitor : Visitor} {raised : Bool}
    (h : visitor.pendingFlag? = some raised) (lock : Lock) : lock ∈ visitor.stage.held := by
  rcases visitor with ⟨thread, stage, rest, replies⟩
  cases stage with
  | attending request reply =>
      rcases request with ⟨handle, call⟩
      cases call <;> cases lock <;> simp [pendingFlag?, Call.flagAfter?, Stage.held, Call.locks] at h ⊢
  | outside => cases h
  | entering request taken => cases h
  | leaving request reply kept => cases h

end Visitor

theorem Call.exists_mem_locks (call : Call) : ∃ lock, lock ∈ call.locks := by
  cases call <;> exact ⟨_, List.mem_cons_self⟩

namespace Crowd

structure Settles (crowd : Crowd) (board : Board) : Prop where
  quiet : (∀ (i : Nat) visitor, crowd.visitors[i]? = some visitor → visitor.pendingFlag? = none) →
    board = crowd.board
  pending : ∀ (i : Nat) visitor raised, crowd.visitors[i]? = some visitor →
    visitor.pendingFlag? = some raised → board = crowd.board.settle (some raised)

section Steps

variable {crowd : Crowd} {board : Board} {i : Nat} {visitor after : Visitor}

theorem pendingFlag?_eq_none_of_held (hexcludes : crowd.Excludes)
    (hvisitor : crowd.visitors[i]? = some visitor) {lock : Lock}
    (hheld : lock ∈ visitor.stage.held) {j : Nat} {other : Visitor} (hne : j ≠ i)
    (hother : crowd.visitors[j]? = some other) : other.pendingFlag? = none := by
  cases hpending : other.pendingFlag? with
  | none => rfl
  | some raised =>
      have hsame := hexcludes lock j i other visitor hother hvisitor
        (Visitor.mem_held_of_pendingFlag? hpending lock) hheld
      exact absurd hsame hne

/-- A step that neither touches the board nor sets out to set the flag. -/
theorem Settles.of_same (h : crowd.Settles board) (hvisitor : crowd.visitors[i]? = some visitor)
    (hpending : after.pendingFlag? = visitor.pendingFlag?) :
    Settles ⟨crowd.board, crowd.visitors.set i after⟩ board := by
  have hlength := (List.getElem?_eq_some_iff.mp hvisitor).1
  constructor
  · intro hquiet
    apply h.quiet
    intro j found hfound
    by_cases hj : j = i
    · subst hj
      rw [hvisitor] at hfound
      cases hfound
      rw [← hpending]
      exact hquiet j after (List.getElem?_set_self hlength)
    · exact hquiet j found (by rw [List.getElem?_set_ne (Ne.symm hj), hfound])
  · intro j found raised hfound hraised
    rcases getElem?_set_cases hfound with ⟨rfl, rfl⟩ | ⟨-, hbefore⟩
    · exact h.pending j visitor raised hvisitor (hpending ▸ hraised)
    · exact h.pending j found raised hbefore hraised

/-- A step after which no other thread has yet to set the flag. -/
theorem Settles.of_others (hothers : ∀ (j : Nat) other, j ≠ i → crowd.visitors[j]? = some other →
      other.pendingFlag? = none) (hvisitor : crowd.visitors[i]? = some visitor) :
    Settles ⟨board, crowd.visitors.set i after⟩ (board.settle after.pendingFlag?) := by
  have hlength := (List.getElem?_eq_some_iff.mp hvisitor).1
  constructor
  · intro hquiet
    have hafter := hquiet i after (List.getElem?_set_self hlength)
    rw [hafter]
    rfl
  · intro j found raised hfound hraised
    rcases getElem?_set_cases hfound with ⟨rfl, rfl⟩ | ⟨hj, hbefore⟩
    · rw [hraised]
    · rw [hothers j found hj hbefore] at hraised
      cases hraised

end Steps

end Crowd

/-!
# Threads and their programs
-/

namespace Visitor

/-- The calls that have not been answered yet. -/
def toCome (visitor : Visitor) : List Request :=
  match visitor.stage with
  | .entering request _ => request :: visitor.rest
  | _ => visitor.rest

def answered (visitor : Visitor) : List Reply :=
  match visitor.stage with
  | .attending _ reply => visitor.replies ++ [reply]
  | .leaving _ reply _ => visitor.replies ++ [reply]
  | _ => visitor.replies

def begun (visitor : Visitor) : Nat :=
  match visitor.stage with
  | .outside => visitor.replies.length
  | _ => visitor.replies.length + 1

theorem length_replies_le (visitor : Visitor) :
    visitor.replies.length ≤ visitor.answered.length := by
  rcases visitor with ⟨thread, stage, rest, replies⟩
  cases stage <;> simp [answered]

theorem length_answered_le (visitor : Visitor) : visitor.answered.length ≤ visitor.begun := by
  rcases visitor with ⟨thread, stage, rest, replies⟩
  cases stage <;> simp [answered, begun]

/-- A thread has made the first calls of its program, and still has the others to make. -/
structure Follows (visitor : Visitor) (program : Program) (deeds : List Deed) : Prop where
  thread : visitor.thread = program.thread
  requests : program.requests = deeds.map (·.request) ++ visitor.toCome
  replies : deeds.map (·.reply) = visitor.answered
  numbered : AreNumbered deeds
  threads : ∀ deed ∈ deeds, deed.caller.thread = program.thread

theorem Follows.length_eq {visitor : Visitor} {program : Program} {deeds : List Deed}
    (h : visitor.Follows program deeds) : deeds.length = visitor.answered.length := by
  rw [← h.replies, List.length_map]

theorem Follows.of_same {visitor after : Visitor} {program : Program} {deeds : List Deed}
    (h : visitor.Follows program deeds) (hthread : after.thread = visitor.thread)
    (htoCome : after.toCome = visitor.toCome) (hanswered : after.answered = visitor.answered) :
    after.Follows program deeds :=
  ⟨hthread.trans h.thread, htoCome ▸ h.requests, hanswered ▸ h.replies, h.numbered, h.threads⟩

end Visitor

namespace Crowd

/-!
# The order of the calls

At every moment the calls answered so far, in the order in which they were attended to, explain what
the threads have been told and what the board looks like.
-/

structure Explains (board : Board) (programs : List Program) (crowd : Crowd) (order : List Deed) :
    Prop where
  excludes : crowd.Excludes
  answers : ∃ after, board.Answers order after ∧ crowd.Settles after
  length_eq : crowd.visitors.length = programs.length
  follows : ∀ (i : Nat) program visitor, programs[i]? = some program →
    crowd.visitors[i]? = some visitor → visitor.Follows program (deedsOf i order)
  known : ∀ deed ∈ order, deed.visitor < programs.length

theorem explains_start (board : Board) (programs : List Program) :
    Explains board programs (start board programs) [] where
  excludes := excludes_start board programs
  answers := by
    refine ⟨board, rfl, fun _ => rfl, ?_⟩
    intro i visitor raised hvisitor hraised
    rcases List.mem_map.mp (List.mem_of_getElem? hvisitor) with ⟨program, -, rfl⟩
    cases hraised
  length_eq := List.length_map _
  follows := by
    intro i program visitor hprogram hvisitor
    have hstart : visitor = ⟨program.thread, .outside, program.requests, []⟩ := by
      simpa [start, hprogram] using hvisitor.symm
    rw [hstart]
    exact ⟨rfl, rfl, rfl, rfl, fun deed hdeed => absurd hdeed List.not_mem_nil⟩
  known := fun deed hdeed => absurd hdeed List.not_mem_nil

section Steps

variable {board : Board} {programs : List Program} {crowd : Crowd} {order : List Deed} {i : Nat}
  {visitor after : Visitor}

theorem Explains.quietStep (h : Explains board programs crowd order)
    (hvisitor : crowd.visitors[i]? = some visitor) {board' : Board}
    (hexcludes : Excludes ⟨board', crowd.visitors.set i after⟩)
    (hsettles : ∀ settled, crowd.Settles settled →
      Settles ⟨board', crowd.visitors.set i after⟩ settled)
    (hthread : after.thread = visitor.thread) (htoCome : after.toCome = visitor.toCome)
    (hanswered : after.answered = visitor.answered) :
    Explains board programs ⟨board', crowd.visitors.set i after⟩ order where
  excludes := hexcludes
  answers := by
    rcases h.answers with ⟨settled, hanswers, hsettled⟩
    exact ⟨settled, hanswers, hsettles settled hsettled⟩
  length_eq := by rw [List.length_set, h.length_eq]
  follows := by
    intro j program found hprogram hfound
    rcases getElem?_set_cases hfound with ⟨rfl, rfl⟩ | ⟨-, hbefore⟩
    · exact (h.follows j program visitor hprogram hvisitor).of_same hthread htoCome hanswered
    · exact h.follows j program found hprogram hbefore
  known := h.known

/-- A step in which a call is answered: it is the last of all so far. -/
theorem Explains.attends {thread : Thread} {request : Request} {taken : Nat} {rest : List Request}
    {replies : List Reply} {now : Calendar.Instant} (h : Explains board programs crowd order)
    (hvisitor : crowd.visitors[i]? = some ⟨thread, .entering request taken, rest, replies⟩)
    (hall : request.call.locks[taken]? = none)
    (hexcludes : Excludes ⟨(crowd.board.attend request.call ⟨thread, now⟩).2,
      crowd.visitors.set i ⟨thread, .attending request
        (crowd.board.attend request.call ⟨thread, now⟩).1, rest, replies⟩⟩) :
    ∃ deed, Explains board programs ⟨(crowd.board.attend request.call ⟨thread, now⟩).2,
      crowd.visitors.set i ⟨thread, .attending request
        (crowd.board.attend request.call ⟨thread, now⟩).1, rest, replies⟩⟩ (order ++ [deed]) := by
  rcases h.answers with ⟨settled, hanswers, hsettled⟩
  -- The thread holds all locks of the call, so nobody is in the middle of setting the flag.
  have hothers : ∀ (j : Nat) other, j ≠ i → crowd.visitors[j]? = some other →
      other.pendingFlag? = none := by
    intro j other hne hother
    rcases request.call.exists_mem_locks with ⟨lock, hlock⟩
    have hheld : lock ∈ request.call.locks.take taken := by
      rwa [List.take_of_length_le (List.getElem?_eq_none_iff.mp hall)]
    exact pendingFlag?_eq_none_of_held h.excludes hvisitor hheld hne hother
  have hboard : settled = crowd.board := by
    apply hsettled.quiet
    intro j other hother
    by_cases hj : j = i
    · subst hj
      rw [hvisitor] at hother
      cases hother
      rfl
    · exact hothers j other hj hother
  have hact := crowd.board.act_eq request.call ⟨thread, now⟩
  let deed : Deed := ⟨i, replies.length, ⟨thread, now⟩, request,
    (crowd.board.attend request.call ⟨thread, now⟩).1⟩
  refine ⟨deed, hexcludes, ?_, ?_, ?_, ?_⟩
  · refine ⟨(crowd.board.act request.call ⟨thread, now⟩).2, ?_, ?_⟩
    · exact (hboard ▸ hanswers).concat (by rw [hact])
    · rw [hact]
      exact Settles.of_others hothers hvisitor
  · rw [List.length_set, h.length_eq]
  · intro j program found hprogram hfound
    rw [deedsOf_append]
    rcases getElem?_set_cases hfound with ⟨rfl, rfl⟩ | ⟨hj, hbefore⟩
    · have hfollows := h.follows j program _ hprogram hvisitor
      rw [show deedsOf j [deed] = [deed] from deedsOf_own deed]
      refine ⟨hfollows.thread, ?_, ?_, hfollows.numbered.concat hfollows.length_eq.symm, ?_⟩
      · simpa [Visitor.toCome] using hfollows.requests
      · rw [List.map_append, hfollows.replies]
        rfl
      · intro other hother
        rcases List.mem_append.mp hother with hold | hnew
        · exact hfollows.threads other hold
        · rw [List.mem_singleton.mp hnew]
          exact hfollows.thread
    · rw [show deedsOf j [deed] = [] from deedsOf_other hj, List.append_nil]
      exact h.follows j program found hprogram hbefore
  · intro other hother
    rcases List.mem_append.mp hother with hold | hnew
    · exact h.known other hold
    · rw [List.mem_singleton.mp hnew, ← h.length_eq]
      exact (List.getElem?_eq_some_iff.mp hvisitor).1

theorem Explains.exists_more (h : Explains board programs crowd order) :
    ∃ more, Explains board programs crowd (order ++ more) :=
  ⟨[], by rwa [List.append_nil]⟩

theorem Explains.step {crowd' : Crowd} {turn : Turn} (h : Explains board programs crowd order)
    (hstep : crowd.step? turn = some crowd') :
    ∃ more, Explains board programs crowd' (order ++ more) := by
  have hexcludes := h.excludes.step hstep
  rcases step?_eq_some hstep with ⟨visitor, after, board', hvisitor, hmoves, rfl⟩
  cases hmoves with
  | begins =>
      exact (h.quietStep hvisitor hexcludes (fun _ hsettled => hsettled.of_same hvisitor rfl)
        rfl rfl rfl).exists_more
  | takes hnext hfree =>
      exact (h.quietStep hvisitor hexcludes (fun _ hsettled => hsettled.of_same hvisitor rfl)
        rfl rfl rfl).exists_more
  | attends hall =>
      rcases h.attends hvisitor hall hexcludes with ⟨deed, hdeed⟩
      exact ⟨[deed], hdeed⟩
  | @settles thread request reply rest replies =>
      refine (h.quietStep hvisitor hexcludes ?_ rfl rfl rfl).exists_more
      intro settled hsettled
      cases hflag : request.call.flagAfter? with
      | none => exact hsettled.of_same hvisitor hflag.symm
      | some raised =>
          have hpending : Visitor.pendingFlag? ⟨thread, .attending request reply, rest, replies⟩ =
              some raised := hflag
          rw [hsettled.pending turn.visitor _ raised hvisitor hpending]
          refine Settles.of_others ?_ hvisitor
          intro j other hne hother
          exact pendingFlag?_eq_none_of_held h.excludes hvisitor
            (Visitor.mem_held_of_pendingFlag? hpending .log) hne hother
  | releases =>
      exact (h.quietStep hvisitor hexcludes (fun _ hsettled => hsettled.of_same hvisitor rfl)
        rfl rfl rfl).exists_more
  | returns =>
      exact (h.quietStep hvisitor hexcludes (fun _ hsettled => hsettled.of_same hvisitor rfl)
        rfl rfl rfl).exists_more

theorem Explains.run {schedule : List Turn} {final : Crowd}
    (h : Explains board programs crowd order) (hrun : crowd.run? schedule = some final) :
    ∃ more, Explains board programs final (order ++ more) ∧
      ∀ earlier later moment, schedule = earlier ++ later → crowd.run? earlier = some moment →
        ∃ sofar, sofar <+: more ∧ Explains board programs moment (order ++ sofar) := by
  induction schedule generalizing crowd order with
  | nil =>
      cases hrun
      refine ⟨[], by rwa [List.append_nil], ?_⟩
      intro earlier later moment hsplit hmoment
      have hearlier : earlier = [] := (List.append_eq_nil_iff.mp hsplit.symm).1
      rw [hearlier] at hmoment
      cases hmoment
      exact ⟨[], List.prefix_rfl, by rwa [List.append_nil]⟩
  | cons turn schedule ih =>
      rw [run?] at hrun
      rcases Option.bind_eq_some_iff.mp hrun with ⟨next, hnext, hrest⟩
      rcases h.step hnext with ⟨first, hfirst⟩
      rcases ih hfirst hrest with ⟨more, hfinal, hmoments⟩
      refine ⟨first ++ more, by rwa [← List.append_assoc], ?_⟩
      intro earlier later moment hsplit hmoment
      cases earlier with
      | nil =>
          cases hmoment
          exact ⟨[], List.nil_prefix, by rwa [List.append_nil]⟩
      | cons turn' earlier =>
          injection hsplit with hturn hsplit
          subst hturn
          rw [run?, hnext] at hmoment
          rcases hmoments earlier later moment hsplit hmoment with ⟨sofar, hprefix, hexplains⟩
          exact ⟨first ++ sofar, (List.prefix_append_right_inj first).mpr hprefix,
            by rwa [← List.append_assoc]⟩

end Steps

/-!
# Calls that do not overlap
-/

def HasReturned (crowd : Crowd) (deed : Deed) : Prop :=
  ∃ visitor, crowd.visitors[deed.visitor]? = some visitor ∧ deed.number < visitor.replies.length

def HasBegun (crowd : Crowd) (deed : Deed) : Prop :=
  ∃ visitor, crowd.visitors[deed.visitor]? = some visitor ∧ deed.number < visitor.begun

/-- At some moment of a schedule, the first call has returned and the second has yet to begin. -/
def ReturnsBefore (start : Crowd) (schedule : List Turn) (first second : Deed) : Prop :=
  ∃ earlier later moment, schedule = earlier ++ later ∧ start.run? earlier = some moment ∧
    moment.HasReturned first ∧ ¬ moment.HasBegun second

section Order

variable {board : Board} {programs : List Program} {moment final : Crowd} {sofar more : List Deed}
  {deed : Deed}

theorem Explains.visitor_of_mem (h : Explains board programs moment sofar)
    (hfinal : Explains board programs final (sofar ++ more)) (hdeed : deed ∈ sofar ++ more) :
    ∃ visitor, moment.visitors[deed.visitor]? = some visitor ∧
      (deedsOf deed.visitor sofar).length = visitor.answered.length ∧
      AreNumbered (deedsOf deed.visitor sofar ++ deedsOf deed.visitor more) := by
  have hlt := hfinal.known deed hdeed
  have hprogram := List.getElem?_eq_getElem hlt
  have hvisitor := List.getElem?_eq_getElem (h.length_eq ▸ hlt)
  have hlast := List.getElem?_eq_getElem (hfinal.length_eq ▸ hlt)
  refine ⟨_, hvisitor, (h.follows _ _ _ hprogram hvisitor).length_eq, ?_⟩
  rw [← deedsOf_append]
  exact (hfinal.follows _ _ _ hprogram hlast).numbered

theorem Explains.mem_of_hasReturned (h : Explains board programs moment sofar)
    (hfinal : Explains board programs final (sofar ++ more)) (hdeed : deed ∈ sofar ++ more)
    (hreturned : moment.HasReturned deed) : deed ∈ sofar := by
  rcases h.visitor_of_mem hfinal hdeed with ⟨visitor, hvisitor, hlength, hnumbered⟩
  rcases hreturned with ⟨found, hfound, hlt⟩
  rw [hvisitor] at hfound
  cases hfound
  rcases List.mem_append.mp hdeed with hsofar | hmore
  · exact hsofar
  · have hle := hnumbered.le_number (mem_deedsOf hmore)
    have := visitor.length_replies_le
    omega

theorem Explains.mem_of_not_hasBegun (h : Explains board programs moment sofar)
    (hfinal : Explains board programs final (sofar ++ more)) (hdeed : deed ∈ sofar ++ more)
    (hbegun : ¬ moment.HasBegun deed) : deed ∈ more := by
  rcases h.visitor_of_mem hfinal hdeed with ⟨visitor, hvisitor, hlength, hnumbered⟩
  rcases List.mem_append.mp hdeed with hsofar | hmore
  · have hlt := hnumbered.number_lt (mem_deedsOf hsofar)
    have := visitor.length_answered_le
    exact absurd ⟨visitor, hvisitor, by omega⟩ hbegun
  · exact hmore

end Order

/-!
# Whole schedules
-/

/--
What it means that an order of all calls accounts for a schedule in which they overlap.  It has the
calls of each thread in the thread's own order, and each thread was told what the order says; whole
calls in this order give the program the same replies and the same board.
-/
structure Serializes (session : Session) (number : Nat) (board : Board) (programs : List Program)
    (schedule : List Turn) (final : Crowd) (order : List Deed) : Prop where
  known : ∀ deed ∈ order, deed.visitor < programs.length
  requests : ∀ (i : Nat) program, programs[i]? = some program →
    (deedsOf i order).map (·.request) = program.requests
  numbered : ∀ i < programs.length, AreNumbered (deedsOf i order)
  threads : ∀ (i : Nat) program, programs[i]? = some program →
    ∀ deed ∈ deedsOf i order, deed.caller.thread = program.thread
  replies : ∀ (i : Nat) visitor, final.visitors[i]? = some visitor →
    (deedsOf i order).map (·.reply) = visitor.replies
  atomic : session.run (order.map Deed.step) =
    (order.map Deed.outcome, session.setBoard number final.board)
  respects : ∀ first ∈ order, ∀ second ∈ order,
    ReturnsBefore (start board programs) schedule first second →
      List.Sublist [first, second] order

section Whole

variable {session : Session} {number : Nat} {board : Board} {programs : List Program}
  {schedule : List Turn} {final : Crowd}

theorem IsDone.pendingFlag? (hdone : final.IsDone) {visitor : Visitor}
    (hvisitor : visitor ∈ final.visitors) : visitor.pendingFlag? = none := by
  unfold Visitor.pendingFlag?
  rw [(hdone visitor hvisitor).1]

theorem serializes_of_run? (hboard : session.boards[number]? = some board)
    (hsound : board.IsSound)
    (hclones : ∀ program ∈ programs, ∀ request ∈ program.requests,
      session.handles[request.handle]? = some number)
    (hrun : (start board programs).run? schedule = some final) (hdone : final.IsDone) :
    ∃ order, Serializes session number board programs schedule final order := by
  rcases (explains_start board programs).run hrun with ⟨order, hfinal, hmoments⟩
  rw [List.nil_append] at hfinal
  have hrequests : ∀ (i : Nat) program, programs[i]? = some program →
      (deedsOf i order).map (·.request) = program.requests := by
    intro i program hprogram
    have hlt := (List.getElem?_eq_some_iff.mp hprogram).1
    have hvisitor := List.getElem?_eq_getElem (hfinal.length_eq ▸ hlt)
    have hend := hdone _ (List.mem_of_getElem? hvisitor)
    have hfollows := hfinal.follows i program _ hprogram hvisitor
    rw [hfollows.requests, Visitor.toCome, hend.1, hend.2, List.append_nil]
  refine ⟨order, hfinal.known, hrequests, ?_, ?_, ?_, ?_, ?_⟩
  · intro i hi
    exact (hfinal.follows i _ _ (List.getElem?_eq_getElem hi)
      (List.getElem?_eq_getElem (hfinal.length_eq ▸ hi))).numbered
  · intro i program hprogram deed hdeed
    have hlt := (List.getElem?_eq_some_iff.mp hprogram).1
    exact (hfinal.follows i program _ hprogram
      (List.getElem?_eq_getElem (hfinal.length_eq ▸ hlt))).threads deed hdeed
  · intro i visitor hvisitor
    have hlt := (List.getElem?_eq_some_iff.mp hvisitor).1
    have hend := hdone _ (List.mem_of_getElem? hvisitor)
    have hfollows := hfinal.follows i _ visitor
      (List.getElem?_eq_getElem (hfinal.length_eq ▸ hlt)) hvisitor
    rw [hfollows.replies, Visitor.answered, hend.1]
  · rcases hfinal.answers with ⟨settled, hanswers, hsettled⟩
    have hsame : settled = final.board := by
      apply hsettled.quiet
      intro i visitor hvisitor
      exact hdone.pendingFlag? (List.mem_of_getElem? hvisitor)
    rw [← hsame]
    apply Session.run_of_answers hboard hsound hanswers
    intro deed hdeed
    have hlt := hfinal.known deed hdeed
    refine hclones _ (List.getElem_mem hlt) deed.request ?_
    rw [← hrequests _ _ (List.getElem?_eq_getElem hlt)]
    exact List.mem_map_of_mem (mem_deedsOf hdeed)
  · intro first hfirst second hsecond hbefore
    rcases hbefore with ⟨earlier, later, moment, hsplit, hmoment, hreturned, hbegun⟩
    rcases hmoments earlier later moment hsplit hmoment with ⟨sofar, ⟨more, rfl⟩, hexplains⟩
    rw [List.nil_append] at hexplains
    have hleft := hexplains.mem_of_hasReturned hfinal hfirst hreturned
    have hright := hexplains.mem_of_not_hasBegun hfinal hsecond hbegun
    exact (List.singleton_sublist.mpr hleft).append (List.singleton_sublist.mpr hright)

/--
However the calls of several threads overlap, the threads can always go on until they are done, and
then an order of the calls accounts for the whole schedule.
-/
theorem canStep_and_serializes (hboard : session.boards[number]? = some board)
    (hsound : board.IsSound)
    (hclones : ∀ program ∈ programs, ∀ request ∈ program.requests,
      session.handles[request.handle]? = some number)
    (hrun : (start board programs).run? schedule = some final) :
    (¬ final.IsDone → final.CanStep) ∧
      (∃ more last, final.run? more = some last ∧ last.IsDone) ∧
      (final.IsDone → ∃ order, Serializes session number board programs schedule final order) :=
  ⟨canStep_of_not_isDone, exists_run?_isDone final,
    serializes_of_run? hboard hsound hclones hrun⟩

end Whole

/-!
In the schedule below the second thread begins while the first is in the middle of its post, and
waits for the log's lock; it has the lock before the post returns.
-/

def postAndGet : List Program :=
  [⟨⟨some "A"⟩, [⟨0, .post (.plain "1")⟩, ⟨0, .get⟩]⟩, ⟨⟨none⟩, [⟨1, .latest⟩]⟩]

def overlapping : List Turn :=
  [0, 0, 1, 0, 0, 0, 0, 0, 1, 0, 1, 1, 0, 1, 1, 0, 0, 0, 0, 0, 0, 0].map
    fun i => ⟨i, ⟨0, 0⟩⟩

theorem serializes_overlapping :
    ∃ session board final,
      session = ((Session.initial.run [.openBoard ⟨2, some "W"⟩ ⟨.main, ⟨0, 0⟩⟩, .clone 0]).2) ∧
      session.boards[0]? = some board ∧
      (start board postAndGet).run? overlapping = some final ∧
      final.IsDone ∧
      ∃ order, Serializes session 0 board postAndGet overlapping final order := by
  have hdone : ∀ board, IsDone ⟨board,
      [⟨⟨some "A"⟩, .outside, [], [.done, .entries board.log.entries]⟩,
        ⟨⟨none⟩, .outside, [], [.entry board.log.last?]⟩]⟩ := by
    intro board visitor hvisitor
    simp only [List.mem_cons, List.not_mem_nil, or_false] at hvisitor
    rcases hvisitor with rfl | rfl <;> exact ⟨rfl, rfl⟩
  refine ⟨_, _, _, rfl, rfl, rfl, hdone _, ?_⟩
  exact (canStep_and_serializes rfl (Board.isSound_ofSettings _ _) (by decide) rfl).2.2 (hdone _)

end Crowd
end MessageBoard
