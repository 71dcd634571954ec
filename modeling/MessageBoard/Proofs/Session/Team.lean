import Mathlib.Data.List.Nodup
import Mathlib.Logic.Relation
import MessageBoard.Proofs.Session.History

/-!
# Threads that post together

Threads of different names share one board.  Each has a list of messages and posts them in their
order, one at a time and through whichever clone; when a thread posts next is left open.  However
the posts of the threads fall between one another, the log ends up with the last of them all, and
what it has of a thread is the end of the thread's list.
-/

namespace MessageBoard

structure Worker where
  name : String
  posts : List Message

structure Team where
  workers : List Worker
  session : Session

namespace Team

/-- Somebody clones a handle, or one of the threads posts the next message of its list. -/
inductive Step : Team → Team → Prop where
  | clone {workers : List Worker} {session : Session} (handle : Nat)
      (hhandle : handle < session.handles.length) :
      Step ⟨workers, session⟩ ⟨workers, (session.step (.clone handle)).2⟩
  | post {before after : List Worker} {name : String} {message : Message} {posts : List Message}
      {session : Session} (handle : Nat) (now : Calendar.Instant)
      (hhandle : handle < session.handles.length) :
      Step ⟨before ++ ⟨name, message :: posts⟩ :: after, session⟩
        ⟨before ++ ⟨name, posts⟩ :: after,
          (session.step (.call handle (.post message) ⟨⟨some name⟩, now⟩)).2⟩

def Reaches : Team → Team → Prop := Relation.ReflTransGen Step

def IsDone (team : Team) : Prop := ∀ worker ∈ team.workers, worker.posts = []

/-- The messages of the entries with a source, in the order of the entries. -/
def messagesOf (source : String) (entries : List Entry) : List Message :=
  (entries.filter (·.source = source)).map (·.message)

def postCount : List Worker → Nat
  | [] => 0
  | worker :: workers => worker.posts.length + postCount workers

theorem postCount_append (before after : List Worker) :
    postCount (before ++ after) = postCount before + postCount after := by
  induction before with
  | nil => exact (Nat.zero_add _).symm
  | cons worker before ih =>
      rw [List.cons_append, postCount, postCount, ih, Nat.add_assoc]

theorem messagesOf_append (source : String) (xs ys : List Entry) :
    messagesOf source (xs ++ ys) = messagesOf source xs ++ messagesOf source ys := by
  simp [messagesOf]

theorem messagesOf_append_own (source : String) (entries : List Entry) (message : Message)
    (now : Calendar.Instant) :
    messagesOf source (entries ++ [⟨message, source, now⟩]) =
      messagesOf source entries ++ [message] := by
  rw [messagesOf_append]
  simp [messagesOf]

theorem messagesOf_append_other {source name : String} (hne : name ≠ source)
    (entries : List Entry) (message : Message) (now : Calendar.Instant) :
    messagesOf source (entries ++ [⟨message, name, now⟩]) = messagesOf source entries := by
  rw [messagesOf_append]
  simp [messagesOf, hne]

theorem messagesOf_suffix (source : String) {xs ys : List Entry} (h : xs <:+ ys) :
    messagesOf source xs <:+ messagesOf source ys :=
  (h.filter _).map _

theorem messagesOf_eq_nil {source : String} {entries : List Entry}
    (h : ∀ entry ∈ entries, entry.source ≠ source) : messagesOf source entries = [] := by
  unfold messagesOf
  rw [List.filter_eq_nil_iff.mpr, List.map_nil]
  intro entry hentry
  simpa using h entry hentry

/-!
# What a team has done

At every moment the board tells the history of what has been posted so far, and each thread's list
is what it has posted followed by what it still has to post.
-/

section Records

variable {settings : Settings} {creator : Caller} {crew : List Worker}

structure Records (settings : Settings) (creator : Caller) (crew : List Worker)
    (posted : List Entry) (team : Team) : Prop where
  names : team.workers.map (·.name) = crew.map (·.name)
  tells : ∃ clones,
    (History.mk (clones + 1) ((History.start settings creator).entries ++ posted)
      (decide (0 < posted.length))).Tells settings.capacity.toNat team.session
  shares : ∀ first ∈ crew, ∃ worker ∈ team.workers,
    worker.name = first.name ∧ first.posts = messagesOf first.name posted ++ worker.posts
  sources : ∀ entry ∈ posted, ∃ first ∈ crew, entry.source = first.name
  count : posted.length + postCount team.workers = postCount crew

theorem records_start :
    Records settings creator crew [] ⟨crew, .opened settings creator⟩ where
  names := rfl
  tells := by
    refine ⟨0, ?_⟩
    rw [List.append_nil]
    exact History.tells_start settings creator
  shares := fun first hfirst => ⟨first, hfirst, rfl, rfl⟩
  sources := fun entry hentry => absurd hentry List.not_mem_nil
  count := Nat.zero_add _

theorem Records.clone {posted : List Entry} {workers : List Worker} {session : Session}
    (h : Records settings creator crew posted ⟨workers, session⟩) {handle : Nat}
    (hhandle : handle < session.handles.length) :
    Records settings creator crew posted ⟨workers, (session.step (.clone handle)).2⟩ := by
  rcases h.tells with ⟨clones, htells⟩
  exact ⟨h.names, ⟨_, (htells.clone hhandle).2⟩, h.shares, h.sources, h.count⟩

theorem name_ne_of_nodup {before after : List Worker} {acting worker : Worker}
    (hnames : ((before ++ acting :: after).map (·.name)).Nodup)
    (hworker : worker ∈ before ++ after) : acting.name ≠ worker.name := by
  rw [List.map_append, List.map_cons, List.nodup_middle, ← List.map_append] at hnames
  intro hname
  apply (List.nodup_cons.mp hnames).1
  rw [hname]
  exact List.mem_map_of_mem hworker

section Post

variable {posted : List Entry} {before after : List Worker} {name : String} {message : Message}
  {posts : List Message} {session : Session}

theorem Records.eq_acting
    (h : Records settings creator crew posted
      ⟨before ++ ⟨name, message :: posts⟩ :: after, session⟩)
    (hnames : (crew.map (·.name)).Nodup) {worker : Worker}
    (hworker : worker ∈ before ++ ⟨name, message :: posts⟩ :: after) (hname : worker.name = name) :
    worker = ⟨name, message :: posts⟩ := by
  have hother : ∀ other ∈ before ++ after, name ≠ other.name :=
    fun other hmem => name_ne_of_nodup (h.names ▸ hnames) hmem
  rcases List.mem_append.mp hworker with hbefore | hrest
  · exact absurd hname.symm (hother worker (List.mem_append_left _ hbefore))
  · rcases List.mem_cons.mp hrest with hfound | hafter
    · exact hfound
    · exact absurd hname.symm (hother worker (List.mem_append_right _ hafter))

theorem Records.shares_post
    (h : Records settings creator crew posted
      ⟨before ++ ⟨name, message :: posts⟩ :: after, session⟩)
    (hnames : (crew.map (·.name)).Nodup) (now : Calendar.Instant) {first : Worker}
    (hfirst : first ∈ crew) :
    ∃ worker ∈ before ++ ⟨name, posts⟩ :: after, worker.name = first.name ∧
      first.posts = messagesOf first.name (posted ++ [⟨message, name, now⟩]) ++ worker.posts := by
  rcases h.shares first hfirst with ⟨worker, hworker, hname, hposts⟩
  by_cases hacting : name = first.name
  · have hsame : worker = ⟨name, message :: posts⟩ :=
      h.eq_acting hnames hworker (hname.trans hacting.symm)
    refine ⟨⟨name, posts⟩, List.mem_append_right _ List.mem_cons_self, hacting, ?_⟩
    rw [hposts, hsame, ← hacting, messagesOf_append_own, List.append_assoc]
    rfl
  · refine ⟨worker, ?_, hname, ?_⟩
    · have hne : worker ≠ ⟨name, message :: posts⟩ := by
        intro hsame
        rw [hsame] at hname
        exact hacting hname
      simp only [List.mem_append, List.mem_cons, hne, false_or] at hworker
      simp only [List.mem_append, List.mem_cons]
      exact hworker.imp_right Or.inr
    · rw [messagesOf_append_other hacting, hposts]

theorem Records.name_mem
    (h : Records settings creator crew posted
      ⟨before ++ ⟨name, message :: posts⟩ :: after, session⟩) :
    ∃ first ∈ crew, name = first.name := by
  have hname : name ∈ crew.map (·.name) := by
    rw [← h.names]
    simp
  rcases List.mem_map.mp hname with ⟨first, hfirst, heq⟩
  exact ⟨first, hfirst, heq.symm⟩

theorem Records.post
    (h : Records settings creator crew posted
      ⟨before ++ ⟨name, message :: posts⟩ :: after, session⟩)
    (hnames : (crew.map (·.name)).Nodup) {handle : Nat}
    (hhandle : handle < session.handles.length) (now : Calendar.Instant) :
    Records settings creator crew (posted ++ [⟨message, name, now⟩])
      ⟨before ++ ⟨name, posts⟩ :: after,
        (session.step (.call handle (.post message) ⟨⟨some name⟩, now⟩)).2⟩ := by
  constructor
  · rw [← h.names]
    simp
  · rcases h.tells with ⟨clones, htells⟩
    have htold := (htells.call hhandle (.post message) ⟨⟨some name⟩, now⟩).2
    simp only [History.answer, List.append_assoc] at htold
    refine ⟨clones, ?_⟩
    simpa [History.entry] using htold
  · intro first hfirst
    exact h.shares_post hnames now hfirst
  · intro entry hentry
    rcases List.mem_append.mp hentry with hold | hnew
    · exact h.sources entry hold
    · rw [List.mem_singleton.mp hnew]
      exact h.name_mem
  · have hcount := h.count
    simp only [postCount_append, postCount, List.length_cons, List.length_append,
      List.length_nil] at hcount ⊢
    omega

end Post

theorem records_of_reaches (hnames : (crew.map (·.name)).Nodup) {team : Team}
    (hreach : Reaches ⟨crew, .opened settings creator⟩ team) :
    ∃ posted, Records settings creator crew posted team := by
  induction hreach with
  | refl => exact ⟨[], records_start⟩
  | tail _ hstep ih =>
      rcases ih with ⟨posted, hrecords⟩
      cases hstep with
      | clone handle hhandle => exact ⟨posted, hrecords.clone hhandle⟩
      | post handle now hhandle => exact ⟨_, hrecords.post hnames hhandle now⟩

end Records

/-!
# When all threads have finished

The entries that a program finds in the end do not depend on the order of the posts beyond what the
capacity forces: only which of the oldest entries are gone is up to the threads.  If there is room
for all, nothing is left to them; the welcome is there unless it had to make room.
-/

section Leaves

variable {settings : Settings} {creator : Caller} {crew : List Worker}

/-- How many entries there have been, the welcome included. -/
def entryCount (settings : Settings) (crew : List Worker) : Nat :=
  postCount crew + if settings.welcome.isSome then 1 else 0

/-- What a program finds on a board that the crew has finished with. -/
structure Leaves (settings : Settings) (creator : Caller) (crew : List Worker)
    (session : Session) (entries : List Entry) : Prop where
  hasHandle : 0 < session.handles.length
  get : ∀ handle < session.handles.length, ∀ caller,
    (session.step (.call handle .get caller)).1 = .reply (.ok (.entries entries))
  length : entries.length = min settings.capacity.toNat (entryCount settings crew)
  suffix : ∀ worker ∈ crew, messagesOf worker.name entries <:+ worker.posts
  sources : ∀ entry ∈ entries,
    entry.source = creator.thread.source ∨ ∃ worker ∈ crew, entry.source = worker.name
  welcome : messagesOf creator.thread.source entries =
    if entryCount settings crew ≤ settings.capacity.toNat then
      (settings.welcome.map Message.plain).toList
    else []
  hasNew : ∀ handle < session.handles.length, ∀ caller,
    (session.step (.call handle .hasNew caller)).1 =
      .reply (.ok (.flag (decide (0 < postCount crew))))
  hasNew_get : ∀ handle < session.handles.length, ∀ caller,
    ∀ other < (session.step (.call handle .get caller)).2.handles.length, ∀ reader,
      ((session.step (.call handle .get caller)).2.step (.call other .hasNew reader)).1 =
        .reply (.ok (.flag false))
  complete : entryCount settings crew ≤ settings.capacity.toNat →
    ∀ worker ∈ crew, messagesOf worker.name entries = worker.posts

theorem length_start_entries (settings : Settings) (creator : Caller) :
    (History.start settings creator).entries.length =
      if settings.welcome.isSome then 1 else 0 := by
  cases hwelcome : settings.welcome <;> simp [History.start, hwelcome]

theorem source_of_mem_start {entry : Entry}
    (hentry : entry ∈ (History.start settings creator).entries) :
    entry.source = creator.thread.source := by
  cases hwelcome : settings.welcome with
  | none => simp [History.start, hwelcome] at hentry
  | some text =>
      have heq : entry = History.entry ⟨text, .message⟩ creator := by
        simpa [History.start, hwelcome] using hentry
      rw [heq]
      rfl

theorem messagesOf_start (settings : Settings) (creator : Caller) :
    messagesOf creator.thread.source (History.start settings creator).entries =
      (settings.welcome.map Message.plain).toList := by
  cases hwelcome : settings.welcome with
  | none => simp [History.start, hwelcome, messagesOf]
  | some text =>
      simp [History.start, hwelcome, messagesOf, History.entry, Thread.source,
        Thread.unknownSource, Message.plain]

theorem postCount_eq_zero {workers : List Worker} (h : ∀ worker ∈ workers, worker.posts = []) :
    postCount workers = 0 := by
  induction workers with
  | nil => rfl
  | cons worker workers ih =>
      rw [postCount, h worker List.mem_cons_self,
        ih fun other hother => h other (List.mem_cons_of_mem worker hother)]
      rfl

theorem messagesOf_start_of_ne {source : String} (hne : source ≠ creator.thread.source) :
    messagesOf source (History.start settings creator).entries = [] := by
  apply messagesOf_eq_nil
  intro entry hentry
  rw [source_of_mem_start hentry]
  exact hne.symm

section Done

variable {posted : List Entry} {team : Team}

theorem Records.length_posted (h : Records settings creator crew posted team)
    (hdone : team.IsDone) : posted.length = postCount crew := by
  have hcount := h.count
  rw [postCount_eq_zero hdone] at hcount
  exact hcount

theorem Records.messagesOf_posted (h : Records settings creator crew posted team)
    (hdone : team.IsDone) {worker : Worker} (hworker : worker ∈ crew) :
    messagesOf worker.name posted = worker.posts := by
  rcases h.shares worker hworker with ⟨last, hlast, _, hposts⟩
  rw [hposts, hdone last hlast, List.append_nil]

theorem Records.messagesOf_creator (h : Records settings creator crew posted team)
    (hcreator : ∀ worker ∈ crew, worker.name ≠ creator.thread.source) :
    messagesOf creator.thread.source posted = [] := by
  apply messagesOf_eq_nil
  intro entry hentry
  rcases h.sources entry hentry with ⟨worker, hworker, hsource⟩
  rw [hsource]
  exact hcreator worker hworker

theorem Records.length_entries (h : Records settings creator crew posted team)
    (hdone : team.IsDone) :
    ((History.start settings creator).entries ++ posted).length = entryCount settings crew := by
  rw [List.length_append, length_start_entries, h.length_posted hdone, entryCount, Nat.add_comm]

theorem Records.messagesOf_welcome (h : Records settings creator crew posted team)
    (hcreator : ∀ worker ∈ crew, worker.name ≠ creator.thread.source) (hdone : team.IsDone) :
    messagesOf creator.thread.source
        (lastItems settings.capacity.toNat ((History.start settings creator).entries ++ posted)) =
      if entryCount settings crew ≤ settings.capacity.toNat then
        (settings.welcome.map Message.plain).toList
      else [] := by
  have htotal := h.length_entries hdone
  have hcreated := h.messagesOf_creator hcreator
  by_cases hroom : entryCount settings crew ≤ settings.capacity.toNat
  · rw [if_pos hroom, lastItems_of_length_le (htotal ▸ hroom), messagesOf_append,
      messagesOf_start, hcreated, List.append_nil]
  · have hfull : settings.capacity.toNat ≤ posted.length := by
      have hone : (History.start settings creator).entries.length ≤ 1 := by
        rw [length_start_entries]
        split <;> omega
      rw [List.length_append] at htotal
      omega
    rw [if_neg hroom, lastItems_append_of_le_length _ hfull]
    have hsuffix := messagesOf_suffix creator.thread.source
      (lastItems_suffix settings.capacity.toNat posted)
    rw [hcreated] at hsuffix
    exact List.suffix_nil.mp hsuffix

theorem Records.leaves (h : Records settings creator crew posted team)
    (hcreator : ∀ worker ∈ crew, worker.name ≠ creator.thread.source) (hdone : team.IsDone) :
    Leaves settings creator crew team.session
      (lastItems settings.capacity.toNat ((History.start settings creator).entries ++ posted)) := by
  have htotal := h.length_entries hdone
  have hwhole : ∀ worker ∈ crew,
      messagesOf worker.name ((History.start settings creator).entries ++ posted) =
        worker.posts := by
    intro worker hworker
    rw [messagesOf_append, messagesOf_start_of_ne (hcreator worker hworker),
      h.messagesOf_posted hdone hworker, List.nil_append]
  rcases h.tells with ⟨clones, htells⟩
  constructor
  · rw [← htells.handles]
    exact Nat.succ_pos clones
  · intro handle hhandle caller
    exact (htells.call hhandle .get caller).1
  · rw [length_lastItems, htotal]
  · intro worker hworker
    rw [← hwhole worker hworker]
    exact messagesOf_suffix worker.name (lastItems_suffix _ _)
  · intro entry hentry
    rcases List.mem_append.mp ((lastItems_suffix _ _).subset hentry) with hfirst | hpost
    · exact Or.inl (source_of_mem_start hfirst)
    · exact Or.inr (h.sources entry hpost)
  · exact h.messagesOf_welcome hcreator hdone
  · intro handle hhandle caller
    rw [(htells.call hhandle .hasNew caller).1, ← h.length_posted hdone]
    rfl
  · intro handle hhandle caller other hother reader
    exact ((htells.call hhandle .get caller).2.call hother .hasNew reader).1
  · intro hroom worker hworker
    rw [lastItems_of_length_le (htotal ▸ hroom)]
    exact hwhole worker hworker

end Done

theorem leaves_of_reaches (hnames : (crew.map (·.name)).Nodup)
    (hcreator : ∀ worker ∈ crew, worker.name ≠ creator.thread.source) {team : Team}
    (hreach : Reaches ⟨crew, .opened settings creator⟩ team) (hdone : team.IsDone) :
    ∃ entries, Leaves settings creator crew team.session entries := by
  rcases records_of_reaches hnames hreach with ⟨posted, hrecords⟩
  exact ⟨_, hrecords.leaves hcreator hdone⟩

end Leaves

def twoWorkers : List Worker := [⟨"A", [.plain "1", .plain "2"]⟩, ⟨"B", [.plain "3"]⟩]

/-- The second thread posts between the posts of the first, and through a clone. -/
theorem leaves_two_workers :
    ∃ team entries, Reaches ⟨twoWorkers, .opened ⟨2, some "W"⟩ ⟨.main, ⟨0, 0⟩⟩⟩ team ∧
      team.IsDone ∧ Leaves ⟨2, some "W"⟩ ⟨.main, ⟨0, 0⟩⟩ twoWorkers team.session entries := by
  have hdone : ∀ session, IsDone ⟨[⟨"A", []⟩, ⟨"B", []⟩], session⟩ := by
    intro session worker hworker
    simp only [List.mem_cons, List.not_mem_nil, or_false] at hworker
    rcases hworker with rfl | rfl <;> rfl
  have hreach : ∃ session, Reaches ⟨twoWorkers, .opened ⟨2, some "W"⟩ ⟨.main, ⟨0, 0⟩⟩⟩
      ⟨[⟨"A", []⟩, ⟨"B", []⟩], session⟩ :=
    ⟨_, (((Relation.ReflTransGen.refl.tail (.clone 0 (by decide))).tail
      (@Step.post [] _ "A" (.plain "1") [.plain "2"] _ 0 ⟨1, 0⟩ (by decide))).tail
      (@Step.post [_] [] "B" (.plain "3") [] _ 1 ⟨2, 0⟩ (by decide))).tail
      (@Step.post [] _ "A" (.plain "2") [] _ 1 ⟨3, 0⟩ (by decide))⟩
  rcases hreach with ⟨session, hreach⟩
  rcases leaves_of_reaches (by decide) (by decide) hreach (hdone session) with ⟨entries, hleaves⟩
  exact ⟨_, entries, hreach, hdone session, hleaves⟩

end Team
end MessageBoard
