import MessageBoard.Proofs.Log.LastItems

/-!
# Counters beside a log

A new entry costs a log at most one entry, the oldest, and where there is no room at all it costs
the new one.  Whoever sees what comes and what goes can therefore keep counters of the severities
and never has to count the log.
-/

namespace MessageBoard

/-!
# Rounds of eviction

One round takes one entry off the front, and there are rounds for as long as there are more entries
than the capacity.
-/

inductive Evicts (capacity : Nat) : Nat → List Entry → List Entry → Prop where
  | done {entries : List Entry} (hroom : entries.length ≤ capacity) :
      Evicts capacity 0 entries entries
  | round {entry : Entry} {entries rest : List Entry} {rounds : Nat}
      (hfull : capacity < (entry :: entries).length) (hrest : Evicts capacity rounds entries rest) :
      Evicts capacity (rounds + 1) (entry :: entries) rest

theorem evicts_evict (capacity : Nat) (entries : List Entry) :
    Evicts capacity (entries.length - capacity) entries (evict capacity entries) := by
  induction entries with
  | nil =>
      rw [List.length_nil, Nat.zero_sub]
      exact .done (Nat.zero_le capacity)
  | cons entry entries ih =>
      rw [evict]
      by_cases hfull : capacity < entries.length + 1
      · have hrounds : (entry :: entries).length - capacity = entries.length - capacity + 1 := by
          rw [List.length_cons]
          omega
        rw [if_pos hfull, hrounds]
        exact .round hfull ih
      · have hrounds : (entry :: entries).length - capacity = 0 := by
          rw [List.length_cons]
          omega
        rw [if_neg hfull, hrounds]
        exact .done (Nat.le_of_not_lt hfull)

theorem evicts_iff {capacity rounds : Nat} {entries rest : List Entry} :
    Evicts capacity rounds entries rest ↔
      rest = evict capacity entries ∧ rounds = entries.length - capacity := by
  constructor
  · intro h
    induction h with
    | done hroom =>
        rw [evict_eq_lastItems, lastItems_of_length_le hroom]
        exact ⟨rfl, (Nat.sub_eq_zero_of_le hroom).symm⟩
    | round hfull _ ih =>
        rcases ih with ⟨hrest, hrounds⟩
        rw [List.length_cons] at hfull ⊢
        rw [evict, if_pos hfull]
        exact ⟨hrest, by omega⟩
  · rintro ⟨rfl, rfl⟩
    exact evicts_evict capacity entries

namespace Log

/-!
# New entries
-/

theorem entries_add_of_lt {log : Log} (hroom : log.size < log.capacity) (entry : Entry) :
    (log.add entry).entries = log.entries ++ [entry] := by
  show evict log.capacity (log.entries ++ [entry]) = _
  rw [evict_eq_lastItems]
  apply lastItems_of_length_le
  rw [List.length_append]
  exact hroom

/-- Without room the oldest goes; that may be the new entry itself. -/
theorem entries_add_of_le {log : Log} (hfull : log.capacity ≤ log.size) (entry : Entry) :
    (log.add entry).entries = (log.entries ++ [entry]).tail := by
  have hdropped : (log.entries ++ [entry]).length - log.capacity = 1 := by
    have hle := log.length_le
    unfold size at hfull
    rw [List.length_append, List.length_singleton]
    omega
  show evict log.capacity (log.entries ++ [entry]) = _
  rw [evict_eq_lastItems, lastItems, hdropped, List.drop_one]

theorem evicts_add_iff {log : Log} {entry : Entry} {rounds : Nat} {rest : List Entry} :
    Evicts log.capacity rounds (log.entries ++ [entry]) rest ↔
      rest = (log.add entry).entries ∧
        rounds = if log.size < log.capacity then 0 else 1 := by
  have hrounds : (log.entries ++ [entry]).length - log.capacity =
      if log.size < log.capacity then 0 else 1 := by
    have hle := log.length_le
    unfold size
    rw [List.length_append, List.length_singleton]
    split <;> omega
  rw [evicts_iff, hrounds]
  rfl

def evicted? (log : Log) (entry : Entry) : Option Entry :=
  if log.size < log.capacity then none else (log.entries ++ [entry]).head?

theorem evicted?_append_entries_add (log : Log) (entry : Entry) :
    (log.evicted? entry).toList ++ (log.add entry).entries = log.entries ++ [entry] := by
  unfold evicted?
  by_cases hroom : log.size < log.capacity
  · rw [if_pos hroom, entries_add_of_lt hroom]
    rfl
  · rw [if_neg hroom, entries_add_of_le (Nat.le_of_not_lt hroom)]
    cases log.entries <;> rfl

/-!
# Counts
-/

/-- What an entry, if there is one, counts among those of a severity. -/
def worth (severity : Severity) (entry : Option Entry) : Int :=
  if entry.any (·.message.severity = severity) then 1 else 0

theorem countP_toList (severity : Severity) (entry : Option Entry) :
    (entry.toList.countP (·.message.severity = severity) : Int) = worth severity entry := by
  cases entry with
  | none => rfl
  | some entry =>
      rw [Option.toList_some, List.countP_singleton, worth, Option.any_some]
      split <;> rfl

theorem count_add (log : Log) (entry : Entry) (severity : Severity) :
    ((log.add entry).count severity : Int) =
      log.count severity + worth severity (some entry) - worth severity (log.evicted? entry) := by
  have hall := congrArg (List.countP (·.message.severity = severity))
    (log.evicted?_append_entries_add entry)
  rw [List.countP_append, List.countP_append] at hall
  have hcomes := countP_toList severity (some entry)
  have hgoes := countP_toList severity (log.evicted? entry)
  rw [Option.toList_some] at hcomes
  unfold count
  omega

theorem count_severities (log : Log) :
    log.count .message + log.count .warning + log.count .error = log.size := by
  unfold count size
  induction log.entries with
  | nil => rfl
  | cons entry entries ih =>
      rw [List.countP_cons, List.countP_cons, List.countP_cons, List.length_cons, ← ih]
      cases entry.message.severity <;> simp <;> omega

/-!
# Runs

A log goes through additions and clearings.  The welcome of a new log is an addition like any other,
so a log begins empty and its counters begin at zero.
-/

inductive Change where
  | add (entry : Entry)
  | clear

def change (log : Log) : Change → Log
  | .add entry => log.add entry
  | .clear => log.clear

def run (log : Log) : List Change → Log
  | [] => log
  | change :: changes => (log.change change).run changes

def opening (settings : Settings) (creator : Caller) : List Change :=
  (settings.welcome.map fun text => Change.add (.ofCaller (.plain text) creator)).toList

theorem ofSettings_eq_run (settings : Settings) (creator : Caller) :
    ofSettings settings creator =
      (empty settings.capacity.toNat).run (opening settings creator) := by
  cases settings with
  | mk capacity welcome => cases welcome <;> rfl

theorem run_append (log : Log) (changes more : List Change) :
    log.run (changes ++ more) = (log.run changes).run more := by
  induction changes generalizing log with
  | nil => rfl
  | cons change changes ih => exact ih (log.change change)

theorem capacity_run (log : Log) (changes : List Change) :
    (log.run changes).capacity = log.capacity := by
  induction changes generalizing log with
  | nil => rfl
  | cons change changes ih =>
      show ((log.change change).run changes).capacity = _
      rw [ih]
      cases change <;> rfl

/-- Counters after a change, from what came and what went. -/
def recount (log : Log) (counters : Severity → Int) : Change → Severity → Int
  | .add entry => fun severity =>
      counters severity + worth severity (some entry) - worth severity (log.evicted? entry)
  | .clear => fun _ => 0

def counters (log : Log) (start : Severity → Int) : List Change → Severity → Int
  | [] => start
  | change :: changes => (log.change change).counters (log.recount start change) changes

theorem recount_eq_count {log : Log} {counters : Severity → Int}
    (h : ∀ severity, counters severity = log.count severity) (change : Change)
    (severity : Severity) :
    log.recount counters change severity = (log.change change).count severity := by
  cases change with
  | add entry =>
      show counters severity + _ - _ = ((log.add entry).count severity : Int)
      rw [h severity, count_add]
  | clear => rfl

theorem counters_eq_count {log : Log} {start : Severity → Int}
    (h : ∀ severity, start severity = log.count severity) (changes : List Change)
    (severity : Severity) :
    log.counters start changes severity = (log.run changes).count severity := by
  induction changes generalizing log start with
  | nil => exact h severity
  | cons change changes ih => exact ih (recount_eq_count h change)

/-!
# Logs at every point of a run
-/

/-- What is seen of a log fits together. -/
structure IsConsistent (log : Log) (capacity : Nat) : Prop where
  capacity_eq : log.capacity = capacity
  size_le : log.size ≤ capacity
  isEmpty_iff : log.isEmpty = true ↔ log.size = 0
  last?_eq_some_iff : ∀ entry, log.last? = some entry ↔ ∃ earlier, log.entries = earlier ++ [entry]
  count_severities : log.count .message + log.count .warning + log.count .error = log.size

/--
What a new entry does to a log.  What is lost and what is left are all there was; eviction ends, in
whatever way it is followed, and after one round at most.
-/
structure Takes (log : Log) (entry : Entry) : Prop where
  roomy : log.size < log.capacity → (log.add entry).entries = log.entries ++ [entry]
  full : log.size = log.capacity → 0 < log.capacity →
    (log.add entry).entries = log.entries.tail ++ [entry]
  closed : log.capacity = 0 → (log.add entry).entries = []
  evicted : (log.evicted? entry).toList ++ (log.add entry).entries = log.entries ++ [entry]
  rounds : ∀ rounds rest, Evicts log.capacity rounds (log.entries ++ [entry]) rest ↔
    rest = (log.add entry).entries ∧ rounds = if log.size < log.capacity then 0 else 1
  count : ∀ severity, ((log.add entry).count severity : Int) =
    log.count severity + worth severity (some entry) - worth severity (log.evicted? entry)

theorem isConsistent_run (log : Log) (changes : List Change) :
    (log.run changes).IsConsistent log.capacity where
  capacity_eq := capacity_run log changes
  size_le := capacity_run log changes ▸ (log.run changes).length_le
  isEmpty_iff := by
    unfold isEmpty size
    rw [List.isEmpty_iff_length_eq_zero]
  last?_eq_some_iff := fun _ => List.getLast?_eq_some_iff
  count_severities := count_severities _

theorem takes (log : Log) (entry : Entry) : log.Takes entry where
  roomy := fun hroom => entries_add_of_lt hroom entry
  full := by
    intro hfull hpositive
    have hentries : log.entries ≠ [] := by
      apply List.ne_nil_of_length_pos
      rwa [← hfull] at hpositive
    rw [entries_add_of_le (Nat.le_of_eq hfull.symm), List.tail_append_of_ne_nil hentries]
  closed := by
    intro hclosed
    apply List.eq_nil_of_length_eq_zero
    have hle := (log.add entry).length_le
    have hcapacity : (log.add entry).capacity = 0 := hclosed
    omega
  evicted := evicted?_append_entries_add log entry
  rounds := fun _ _ => evicts_add_iff
  count := count_add log entry

/-- At every point of a run a log is consistent, and its counters agree with its counts. -/
theorem isConsistent_and_counted (settings : Settings) (creator : Caller) (changes : List Change) :
    ((ofSettings settings creator).run changes).IsConsistent settings.capacity.toNat ∧
      (∀ entry, ((ofSettings settings creator).run changes).Takes entry) ∧
      ∀ severity,
        (empty settings.capacity.toNat).counters (fun _ => 0) (opening settings creator ++ changes)
            severity =
          ((ofSettings settings creator).run changes).count severity := by
  have hrun : (ofSettings settings creator).run changes =
      (empty settings.capacity.toNat).run (opening settings creator ++ changes) := by
    rw [ofSettings_eq_run, run_append]
  rw [hrun]
  refine ⟨isConsistent_run _ _, takes _, ?_⟩
  intro severity
  exact counters_eq_count (fun _ => rfl) _ severity

/-- Two warnings push the welcome and then the first of them out. -/
example (now : Calendar.Instant) :
    (empty 1).counters (fun _ => 0)
      (opening ⟨1, some "hi"⟩ ⟨.main, now⟩ ++
        [.add ⟨⟨"a", .warning⟩, "x", now⟩, .add ⟨⟨"b", .warning⟩, "y", now⟩]) .warning = 1 := rfl

end Log
end MessageBoard
