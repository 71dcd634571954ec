import MessageBoard.Proofs.Board.Locks
import MessageBoard.Proofs.Session.Sharing

/-!
# Polling

A client that wants to know what is on a board need not get the entries again and again.  It gets
them once, and from then on it asks for the flag and gets the entries only when the flag is raised.
Others may post at any time, also after the client has found the flag raised and before it gets the
entries.  As long as nobody else gets or clears the entries, the client misses nothing.
-/

namespace MessageBoard

/-!
# The client
-/

/--
What a client remembers between its calls; an alerted one has seen the flag raised and still has to
fetch the entries.
-/
inductive Client where
  | starting
  | resting (snapshot : List Entry)
  | alerted (snapshot : List Entry)

namespace Client

def nextCall : Client → Call
  | starting => .get
  | resting _ => .hasNew
  | alerted _ => .get

/-- What a client makes of a reply; at the end of a poll it goes by the list it then remembers. -/
def hear (client : Client) (reply : Reply) : Client × Option (List Entry) :=
  match client, reply with
  | .resting snapshot, .flag true => (.alerted snapshot, none)
  | .resting snapshot, .flag false => (.resting snapshot, some snapshot)
  | _, .entries entries => (.resting entries, some entries)
  | client, _ => (client, none)

end Client

structure Polling where
  client : Client
  session : Session

namespace Polling

/-- The client makes its next call, or something else happens in the program. -/
inductive Move where
  | client (handle : Nat) (caller : Caller)
  | other (handle : Nat) (call : Call) (caller : Caller) (hcall : call ≠ .get ∧ call ≠ .clear)
  | clone (handle : Nat)

def start (settings : Settings) (creator : Caller) : Polling :=
  ⟨.starting, .opened settings creator⟩

/-- One move, with the list that the client goes by if a poll ends here. -/
def step (polling : Polling) : Move → Polling × Option (List Entry)
  | .client handle caller =>
      match polling.session.step (.call handle polling.client.nextCall caller) with
      | (.reply (.ok reply), session) =>
          (⟨(polling.client.hear reply).1, session⟩, (polling.client.hear reply).2)
      | (_, session) => (⟨polling.client, session⟩, none)
  | .other handle call caller _ =>
      (⟨polling.client, (polling.session.step (.call handle call caller)).2⟩, none)
  | .clone handle => (⟨polling.client, (polling.session.step (.clone handle)).2⟩, none)

def after (polling : Polling) : List Move → Polling
  | [] => polling
  | move :: moves => (polling.step move).1.after moves

/-- For each end of a poll, the list that the client goes by and the program at that moment. -/
def pollEnds (polling : Polling) : List Move → List (List Entry × Session)
  | [] => []
  | move :: moves =>
      ((polling.step move).2.map fun list => (list, (polling.step move).1.session)).toList
        ++ (polling.step move).1.pollEnds moves

/-!
# The eager client

A client that does not look at the flag gets the entries at every moment at which a poll ends.
-/

/-- What happens in a move when the eager client stands in for the client. -/
def eagerStep (polling : Polling) (move : Move) : List Session.Step :=
  match move with
  | .client handle caller =>
      match (polling.step move).2 with
      | some _ => [.call handle .get caller]
      | none => []
  | .other handle call caller _ => [.call handle call caller]
  | .clone handle => [.clone handle]

def eagerSteps (polling : Polling) : List Move → List Session.Step
  | [] => []
  | move :: moves => polling.eagerStep move ++ (polling.step move).1.eagerSteps moves

def entriesOf? : Session.Outcome → Option (List Entry)
  | .reply (.ok (.entries entries)) => some entries
  | _ => none

/-!
# What the client knows

While the flag is down, the log is what the client got last.
-/

def Knows (client : Client) (board : Board) : Prop :=
  match client with
  | .resting snapshot => board.unread = false → board.log.entries = snapshot
  | _ => True

/-- The board of a client and the board of an eager client, in the course of the same moves. -/
structure Corresponds (polling : Polling) (eager : Session) (board other : Board) : Prop where
  shares : polling.session.Shares board
  isSound : board.IsSound
  knows : Knows polling.client board
  eagerShares : eager.Shares other
  eagerIsSound : other.IsSound
  log_eq : other.log = board.log
  length_eq : eager.handles.length = polling.session.handles.length

theorem corresponds_start (settings : Settings) (creator : Caller) :
    (start settings creator).Corresponds (.opened settings creator) (.ofSettings settings creator)
      (.ofSettings settings creator) where
  shares := Session.shares_opened settings creator
  isSound := Board.isSound_ofSettings settings creator
  knows := trivial
  eagerShares := Session.shares_opened settings creator
  eagerIsSound := Board.isSound_ofSettings settings creator
  log_eq := rfl
  length_eq := rfl

/-- What a move brings about: both programs correspond again, and both clients see the same. -/
structure Advances (polling : Polling) (eager : Session) (move : Move) (board other : Board) :
    Prop where
  corresponds : (polling.step move).1.Corresponds (eager.run (polling.eagerStep move)).2 board other
  current : ∀ list, (polling.step move).2 = some list → list = board.log.entries
  same : (eager.run (polling.eagerStep move)).1.filterMap entriesOf? = (polling.step move).2.toList

section Moves

variable {polling : Polling} {eager : Session} {board other : Board}

theorem hear_act {client : Client} (hknows : Knows client board) (caller : Caller) :
    Knows (client.hear (board.act client.nextCall caller).1).1
        (board.act client.nextCall caller).2 ∧
      (board.act client.nextCall caller).2.log = board.log ∧
      ∀ list, (client.hear (board.act client.nextCall caller).1).2 = some list →
        list = board.log.entries := by
  rcases board with ⟨log, unread, logPoisoned, flagPoisoned⟩
  cases client with
  | starting =>
      refine ⟨fun _ => rfl, rfl, ?_⟩
      intro list hlist
      cases hlist
      rfl
  | alerted snapshot =>
      refine ⟨fun _ => rfl, rfl, ?_⟩
      intro list hlist
      cases hlist
      rfl
  | resting snapshot =>
      cases unread with
      | true =>
          refine ⟨trivial, rfl, ?_⟩
          intro list hlist
          cases hlist
      | false =>
          refine ⟨hknows, rfl, ?_⟩
          intro list hlist
          cases hlist
          exact (hknows rfl).symm

def EndsOrAlerts (polling : Polling) (move : Move) : Prop :=
  (polling.step move).2.isSome = true ∨
    ∃ snapshot, polling.client = .resting snapshot ∧
      (polling.step move).1.client = .alerted snapshot

theorem Corresponds.endsOrAlerts (h : polling.Corresponds eager board other) {handle : Nat}
    (hhandle : handle < polling.session.handles.length) (caller : Caller) :
    polling.EndsOrAlerts (.client handle caller) := by
  have hstep := h.shares.step_call_of_isSound h.isSound hhandle polling.client.nextCall caller
  rcases polling with ⟨client, session⟩
  unfold EndsOrAlerts
  simp only [step, hstep]
  cases client with
  | starting => exact Or.inl rfl
  | alerted snapshot => exact Or.inl rfl
  | resting snapshot =>
      rcases board with ⟨log, unread, logPoisoned, flagPoisoned⟩
      cases unread with
      | true => exact Or.inr ⟨snapshot, rfl, rfl⟩
      | false => exact Or.inl rfl

theorem log_act_congr (h : other.log = board.log) (call : Call) (caller : Caller) :
    (other.act call caller).2.log = (board.act call caller).2.log := by
  cases call <;> simp [Board.act, h]

theorem knows_act {client : Client} (hknows : Knows client board) {call : Call}
    (hcall : call ≠ .get ∧ call ≠ .clear) (caller : Caller) :
    Knows client (board.act call caller).2 := by
  cases client with
  | starting => trivial
  | alerted snapshot => trivial
  | resting snapshot =>
      cases call with
      | post message => exact fun hdown => Bool.noConfusion hdown
      | latest => exact hknows
      | hasNew => exact hknows
      | get => exact absurd rfl hcall.1
      | clear => exact absurd rfl hcall.2

theorem entriesOf?_act {call : Call} (hcall : call ≠ .get ∧ call ≠ .clear) (caller : Caller) :
    entriesOf? (.reply (.ok (board.act call caller).1)) = none := by
  cases call with
  | get => exact absurd rfl hcall.1
  | post message => rfl
  | latest => rfl
  | hasNew => rfl
  | clear => rfl

theorem Corresponds.clientCall (h : polling.Corresponds eager board other) {handle : Nat}
    (hhandle : handle < polling.session.handles.length) (caller : Caller) :
    ∃ board other, polling.Advances eager (.client handle caller) board other := by
  have hstep := h.shares.step_call_of_isSound h.isSound hhandle polling.client.nextCall caller
  have hgets := h.eagerShares.step_call_of_isSound h.eagerIsSound (h.length_eq ▸ hhandle) .get caller
  rcases hear_act h.knows caller with ⟨hknows, hlog, hcurrent⟩
  have hafter : polling.step (.client handle caller) =
      (⟨(polling.client.hear (board.act polling.client.nextCall caller).1).1,
          polling.session.setBoard 0 (board.act polling.client.nextCall caller).2⟩,
        (polling.client.hear (board.act polling.client.nextCall caller).1).2) := by
    simp [step, hstep]
  cases hlist : (polling.client.hear (board.act polling.client.nextCall caller).1).2 with
  | none =>
      have heager : polling.eagerStep (.client handle caller) = [] := by
        simp [eagerStep, hafter, hlist]
      refine ⟨(board.act polling.client.nextCall caller).2, other, ?_, ?_, ?_⟩
      · rw [heager, hafter]
        exact ⟨h.shares.setBoard _, h.isSound.act _ caller, hknows, h.eagerShares, h.eagerIsSound,
          h.log_eq.trans hlog.symm, h.length_eq⟩
      · intro list hsome
        rw [hafter, hlist] at hsome
        cases hsome
      · rw [heager, hafter, hlist]
        rfl
  | some list =>
      have heager : polling.eagerStep (.client handle caller) = [.call handle .get caller] := by
        simp [eagerStep, hafter, hlist]
      have hrun : eager.run [.call handle .get caller] =
          ([.reply (.ok (.entries other.log.entries))],
            eager.setBoard 0 (other.act .get caller).2) := by
        rw [Session.run_cons, hgets]
        rfl
      refine ⟨(board.act polling.client.nextCall caller).2, (other.act .get caller).2, ?_, ?_, ?_⟩
      · rw [heager, hafter, hrun]
        exact ⟨h.shares.setBoard _, h.isSound.act _ caller, hknows, h.eagerShares.setBoard _,
          h.eagerIsSound.act .get caller, h.log_eq.trans hlog.symm, h.length_eq⟩
      · intro list' hsome
        rw [hafter] at hsome
        rw [hlog]
        exact hcurrent list' hsome
      · rw [heager, hafter, hrun, hlist, hcurrent list hlist, h.log_eq]
        rfl

theorem Corresponds.otherCall (h : polling.Corresponds eager board other) {handle : Nat}
    (hhandle : handle < polling.session.handles.length) {call : Call}
    (hcall : call ≠ .get ∧ call ≠ .clear) (caller : Caller) :
    ∃ board other, polling.Advances eager (.other handle call caller hcall) board other := by
  have hstep := h.shares.step_call_of_isSound h.isSound hhandle call caller
  have heager := h.eagerShares.step_call_of_isSound h.eagerIsSound (h.length_eq ▸ hhandle) call caller
  have hrun : eager.run [.call handle call caller] =
      ([.reply (.ok (other.act call caller).1)], eager.setBoard 0 (other.act call caller).2) := by
    rw [Session.run_cons, heager]
    rfl
  refine ⟨(board.act call caller).2, (other.act call caller).2, ?_, ?_, ?_⟩
  · simp only [step, hstep, eagerStep, hrun]
    exact ⟨h.shares.setBoard _, h.isSound.act call caller, knows_act h.knows hcall caller,
      h.eagerShares.setBoard _, h.eagerIsSound.act call caller, log_act_congr h.log_eq call caller,
      h.length_eq⟩
  · intro list hlist
    cases hlist
  · simp [step, eagerStep, hrun, entriesOf?_act hcall caller]

theorem Corresponds.clone (h : polling.Corresponds eager board other) {handle : Nat}
    (hhandle : handle < polling.session.handles.length) :
    polling.Advances eager (.clone handle) board other := by
  rcases h.shares.step_clone hhandle with ⟨_, hshares, hlength⟩
  rcases h.eagerShares.step_clone (h.length_eq ▸ hhandle) with ⟨houtcome, heagerShares, heagerLength⟩
  refine ⟨⟨hshares, h.isSound, h.knows, heagerShares, h.eagerIsSound, h.log_eq, ?_⟩, ?_, ?_⟩
  · exact heagerLength.trans (h.length_eq ▸ hlength.symm)
  · intro list hlist
    cases hlist
  · simp [step, eagerStep, Session.run_cons, Session.run_nil, houtcome, entriesOf?]

theorem Corresponds.stays (h : polling.Corresponds eager board other) {move : Move}
    (hstep : polling.step move = (polling, none))
    (heager : polling.eagerStep move = [] ∨ ∃ step, polling.eagerStep move = [step] ∧
      eager.step step = (.noHandle, eager)) :
    polling.Advances eager move board other := by
  have hrun : (eager.run (polling.eagerStep move)).2 = eager ∧
      (eager.run (polling.eagerStep move)).1.filterMap entriesOf? = [] := by
    rcases heager with hnil | ⟨step, hone, hnothing⟩
    · rw [hnil]
      exact ⟨rfl, rfl⟩
    · rw [hone, Session.run_cons, hnothing]
      exact ⟨rfl, rfl⟩
  refine ⟨?_, ?_, ?_⟩
  · rw [hstep, hrun.1]
    exact h
  · rw [hstep]
    intro list hlist
    cases hlist
  · rw [hstep, hrun.2]
    rfl

theorem Corresponds.step (h : polling.Corresponds eager board other) (move : Move) :
    ∃ board other, polling.Advances eager move board other := by
  cases move with
  | client handle caller =>
      by_cases hhandle : handle < polling.session.handles.length
      · exact h.clientCall hhandle caller
      · have hnothing := (h.shares.step_of_ge (Nat.le_of_not_lt hhandle)).2
        have hstep : polling.step (.client handle caller) = (polling, none) := by
          simp [Polling.step, hnothing]
        exact ⟨board, other, h.stays hstep (Or.inl (by simp [eagerStep, hstep]))⟩
  | other handle call caller hcall =>
      by_cases hhandle : handle < polling.session.handles.length
      · exact h.otherCall hhandle hcall caller
      · have hle := Nat.le_of_not_lt hhandle
        have hnothing := (h.shares.step_of_ge hle).2 call caller
        have heager := (h.eagerShares.step_of_ge (h.length_eq ▸ hle)).2 call caller
        exact ⟨board, other, h.stays (by simp [Polling.step, hnothing]) (Or.inr ⟨_, rfl, heager⟩)⟩
  | clone handle =>
      by_cases hhandle : handle < polling.session.handles.length
      · exact ⟨board, other, h.clone hhandle⟩
      · have hle := Nat.le_of_not_lt hhandle
        have hnothing := (h.shares.step_of_ge hle).1
        have heager := (h.eagerShares.step_of_ge (h.length_eq ▸ hle)).1
        exact ⟨board, other, h.stays (by simp [Polling.step, hnothing]) (Or.inr ⟨_, rfl, heager⟩)⟩

end Moves

/-!
# Whole runs
-/

/--
The client misses nothing: at the end of each poll it goes by what it would get there, and by what
an eager client, who always gets the entries, goes by at that moment.
-/
structure MissesNothing (polling : Polling) (eager : Session) (moves : List Move) : Prop where
  ends : ∀ earlier handle caller later, moves = earlier ++ .client handle caller :: later →
    handle < (polling.after earlier).session.handles.length →
    (polling.after earlier).EndsOrAlerts (.client handle caller)
  current : ∀ pollEnd ∈ polling.pollEnds moves, ∀ handle < pollEnd.2.handles.length, ∀ caller,
    (pollEnd.2.step (.call handle .get caller)).1 = .reply (.ok (.entries pollEnd.1))
  same : (eager.run (polling.eagerSteps moves)).1.filterMap entriesOf? =
    (polling.pollEnds moves).map (·.1)

theorem Corresponds.after {polling : Polling} {eager : Session} {board other : Board}
    (h : polling.Corresponds eager board other) (moves : List Move) :
    ∃ eager board other, (polling.after moves).Corresponds eager board other := by
  induction moves generalizing polling eager board other with
  | nil => exact ⟨eager, board, other, h⟩
  | cons move moves ih =>
      rcases h.step move with ⟨board', other', hadvances⟩
      exact ih hadvances.corresponds

theorem Corresponds.current {polling : Polling} {eager : Session} {board other : Board}
    (h : polling.Corresponds eager board other) (moves : List Move) :
    ∀ pollEnd ∈ polling.pollEnds moves, ∀ handle < pollEnd.2.handles.length, ∀ caller,
      (pollEnd.2.step (.call handle .get caller)).1 = .reply (.ok (.entries pollEnd.1)) := by
  induction moves generalizing polling eager board other with
  | nil =>
      intro pollEnd hend
      cases hend
  | cons move moves ih =>
      rcases h.step move with ⟨board', other', hadvances⟩
      have hcorresponds := hadvances.corresponds
      intro pollEnd hend handle hhandle caller
      rcases List.mem_append.mp hend with hfirst | hlater
      · rcases Option.map_eq_some_iff.mp (Option.mem_toList.mp hfirst) with ⟨list, hlist, rfl⟩
        rw [hcorresponds.shares.step_call_of_isSound hcorresponds.isSound hhandle .get caller,
          hadvances.current list hlist]
        rfl
      · exact ih hcorresponds pollEnd hlater handle hhandle caller

theorem Corresponds.same {polling : Polling} {eager : Session} {board other : Board}
    (h : polling.Corresponds eager board other) (moves : List Move) :
    (eager.run (polling.eagerSteps moves)).1.filterMap entriesOf? =
      (polling.pollEnds moves).map (·.1) := by
  induction moves generalizing polling eager board other with
  | nil => rfl
  | cons move moves ih =>
      rcases h.step move with ⟨board', other', hadvances⟩
      rw [eagerSteps, Session.run_append, List.filterMap_append, hadvances.same,
        ih hadvances.corresponds, pollEnds, List.map_append]
      cases (polling.step move).2 <;> rfl

theorem missesNothing (settings : Settings) (creator : Caller) (moves : List Move) :
    (start settings creator).MissesNothing (.opened settings creator) moves where
  ends := by
    intro earlier handle caller later _ hhandle
    rcases (corresponds_start settings creator).after earlier with ⟨_, _, _, hthen⟩
    exact hthen.endsOrAlerts hhandle caller
  current := (corresponds_start settings creator).current moves
  same := (corresponds_start settings creator).same moves

/-- The second entry comes after the flag was found raised, and there is room for one only. -/
example :
    ((start ⟨1, none⟩ ⟨.main, ⟨0, 0⟩⟩).pollEnds
        [.client 0 ⟨.main, ⟨0, 0⟩⟩, .other 0 (.post (.plain "a")) ⟨.main, ⟨1, 0⟩⟩ (by decide),
          .client 0 ⟨.main, ⟨2, 0⟩⟩, .other 0 (.post (.plain "b")) ⟨.main, ⟨3, 0⟩⟩ (by decide),
          .client 0 ⟨.main, ⟨4, 0⟩⟩, .client 0 ⟨.main, ⟨5, 0⟩⟩]).map
      (fun pollEnd => pollEnd.1.map (·.message.text)) = [[], ["b"], ["b"]] := rfl

end Polling
end MessageBoard
