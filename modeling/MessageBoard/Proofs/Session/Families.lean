import MessageBoard.Proofs.Session.Parallel

/-!
# Families of handles

A handle that was opened has a family: its clones, their clones and so on.  All handles of a family
are as good as the first of them, and what is heard on them does not depend on what is done on the
handles of other families.  It does not depend on files either once the family is there.
-/

namespace MessageBoard
namespace Session

/-!
# Origins

The origin of a handle is told by the steps alone: a handle that was opened is its own origin, and a
clone has the origin of the handle that was cloned.
-/

/-- The origins of all handles, in the order of their numbers, after one more step. -/
def originsAfter (origins : List Nat) : Step → List Nat
  | .openBoard _ _ => origins ++ [origins.length]
  | .openFile _ _ => origins ++ [origins.length]
  | .clone handle =>
      match origins[handle]? with
      | some origin => origins ++ [origin]
      | none => origins
  | _ => origins

def originsFrom (origins : List Nat) (steps : List Step) : List Nat :=
  steps.foldl originsAfter origins

/-!
# Families on their own
-/

/--
What becomes of a step when a family is left to itself.  Calls and poisonings count only on its own
handles, which all give way to the first; files are left alone as soon as the family is there.
-/
def isolateStep? (family : Nat) (origins : List Nat) : Step → Option Step
  | .call handle call caller =>
      if origins[handle]? = some family then some (.call family call caller) else none
  | .poison handle lock =>
      if origins[handle]? = some family then some (.poison family lock) else none
  | .clone handle => some (.clone (if origins[handle]? = some family then family else handle))
  | .save path settings => if family < origins.length then none else some (.save path settings)
  | .write path content => if family < origins.length then none else some (.write path content)
  | .makeDirectory path => if family < origins.length then none else some (.makeDirectory path)
  | step => some step

def isolate (family : Nat) (origins : List Nat) : List Step → List Step
  | [] => []
  | step :: steps =>
      (isolateStep? family origins step).toList ++ isolate family (originsAfter origins step) steps

/-!
# What is heard
-/

def Step.isCallOn (family : Nat) (origins : List Nat) : Step → Bool
  | .call handle _ _ => origins[handle]? = some family
  | _ => false

/-- The outcomes of the calls on the handles of a family. -/
def callOutcomes (family : Nat) (origins : List Nat) : List Step → List Outcome → List Outcome
  | step :: steps, outcome :: outcomes =>
      (if step.isCallOn family origins then [outcome] else []) ++
        callOutcomes family (originsAfter origins step) steps outcomes
  | _, _ => []

def Outcome.isReply : Outcome → Bool
  | .reply _ => true
  | _ => false

/-!
# Origins and boards

Handles lead to the same board exactly if they have the same origin.
-/

structure Traces (session : Session) (origins : List Nat) : Prop where
  length_eq : origins.length = session.handles.length
  number_lt : ∀ handle number : Nat, session.handles[handle]? = some number →
    number < session.boards.length
  origin : ∀ handle origin number : Nat, origins[handle]? = some origin →
    session.handles[handle]? = some number →
    origins[origin]? = some origin ∧ session.handles[origin]? = some number
  injective : ∀ origin other number : Nat, origins[origin]? = some origin →
    origins[other]? = some other → session.handles[origin]? = some number →
    session.handles[other]? = some number → origin = other

theorem getElem?_append_of_eq_some {α : Type} {xs : List α} {i : Nat} {x : α}
    (h : xs[i]? = some x) (more : List α) : (xs ++ more)[i]? = some x := by
  rcases List.getElem?_eq_some_iff.mp h with ⟨hlt, -⟩
  rw [List.getElem?_append_left hlt, h]

theorem getElem?_of_concat {α : Type} {xs : List α} {x y : α} {i : Nat} (hlt : i < xs.length)
    (h : (xs ++ [x])[i]? = some y) : xs[i]? = some y := by
  rwa [List.getElem?_append_left hlt] at h

namespace Traces

variable {origins : List Nat} {session : Session} {handle origin number : Nat}

theorem of_same (h : session.Traces origins) {other : Session}
    (hhandles : other.handles = session.handles)
    (hlength : other.boards.length = session.boards.length) : other.Traces origins := by
  rcases h with ⟨length_eq, number_lt, horigin, hinjective⟩
  constructor <;> rw [hhandles]
  · exact length_eq
  · rw [hlength]
    exact number_lt
  · exact horigin
  · exact hinjective

theorem lt_of_origin (h : session.Traces origins) (horigin : origins[handle]? = some origin) :
    handle < session.handles.length := by
  rw [← h.length_eq]
  exact (List.getElem?_eq_some_iff.mp horigin).1

theorem exists_boardOf? (h : session.Traces origins) (horigin : origins[handle]? = some origin) :
    ∃ number board, session.boardOf? handle = some (number, board) ∧
      session.boardOf? origin = some (number, board) := by
  have hhandle := List.getElem?_eq_getElem (h.lt_of_origin horigin)
  have hboard := List.getElem?_eq_getElem (h.number_lt _ _ hhandle)
  have hfirst := (h.origin _ _ _ horigin hhandle).2
  exact ⟨_, _, boardOf?_eq_some_iff.mpr ⟨hhandle, hboard⟩,
    boardOf?_eq_some_iff.mpr ⟨hfirst, hboard⟩⟩

theorem boardOf?_eq_none (h : session.Traces origins) (hnone : origins[handle]? = none) :
    session.boardOf? handle = none := by
  rw [List.getElem?_eq_none_iff, h.length_eq] at hnone
  simp [boardOf?, List.getElem?_eq_none hnone]

theorem addBoard (h : session.Traces origins) (board : Board) :
    (session.addBoard board).2.Traces (origins ++ [origins.length]) where
  length_eq := by
    unfold Session.addBoard
    rw [List.length_append, List.length_append, h.length_eq]
    rfl
  number_lt := by
    intro handle number hhandle
    unfold Session.addBoard
    rw [List.length_append]
    rcases getElem?_concat_cases hhandle with hold | ⟨-, rfl⟩
    · exact Nat.lt_succ_of_lt (h.number_lt handle number hold)
    · exact Nat.lt_succ_self _
  origin := by
    intro handle origin number horigin hhandle
    rcases getElem?_concat_cases horigin with hold | ⟨rfl, rfl⟩
    · have hnumber := getElem?_of_concat (h.lt_of_origin hold) hhandle
      rcases h.origin handle origin number hold hnumber with ⟨hself, hfirst⟩
      exact ⟨getElem?_append_of_eq_some hself _, getElem?_append_of_eq_some hfirst _⟩
    · exact ⟨horigin, hhandle⟩
  injective := by
    intro origin other number horigin hother hnumber hnumber'
    have hnew : ∀ number, (session.addBoard board).2.handles[origins.length]? = some number →
        number = session.boards.length := by
      intro number hlast
      rw [h.length_eq] at hlast
      have hconcat : (session.handles ++ [session.boards.length])[session.handles.length]? = _ :=
        List.getElem?_concat_length
      exact (Option.some.inj (hconcat.symm.trans hlast)).symm
    rcases getElem?_concat_cases horigin with hold | ⟨rfl, -⟩
    · have holdNumber := getElem?_of_concat (h.lt_of_origin hold) hnumber
      rcases getElem?_concat_cases hother with hold' | ⟨rfl, -⟩
      · exact h.injective origin other number hold hold' holdNumber
          (getElem?_of_concat (h.lt_of_origin hold') hnumber')
      · have hlt := h.number_lt _ _ holdNumber
        rw [hnew number hnumber'] at hlt
        exact absurd hlt (Nat.lt_irrefl _)
    · rcases getElem?_concat_cases hother with hold' | ⟨rfl, -⟩
      · have hlt := h.number_lt _ _ (getElem?_of_concat (h.lt_of_origin hold') hnumber')
        rw [hnew number hnumber] at hlt
        exact absurd hlt (Nat.lt_irrefl _)
      · rfl

theorem addHandle (h : session.Traces origins) (horigin : origins[handle]? = some origin)
    (hhandle : session.handles[handle]? = some number) :
    ({ session with handles := session.handles ++ [number] } : Session).Traces
      (origins ++ [origin]) where
  length_eq := by
    rw [List.length_append, List.length_append, h.length_eq]
    rfl
  number_lt := by
    intro other number' hother
    rcases getElem?_concat_cases hother with hold | ⟨-, rfl⟩
    · exact h.number_lt other number' hold
    · exact h.number_lt handle _ hhandle
  origin := by
    intro other origin' number' horigin' hother
    have hfound : origins[origin']? = some origin' ∧ session.handles[origin']? = some number' := by
      rcases getElem?_concat_cases horigin' with hold | ⟨rfl, rfl⟩
      · exact h.origin other origin' number' hold
          (getElem?_of_concat (h.lt_of_origin hold) hother)
      · have hlast : (session.handles ++ [number])[session.handles.length]? = _ :=
          List.getElem?_concat_length
        rw [h.length_eq] at hother
        rw [← Option.some.inj (hlast.symm.trans hother)]
        exact h.origin handle _ number horigin hhandle
    exact ⟨getElem?_append_of_eq_some hfound.1 _, getElem?_append_of_eq_some hfound.2 _⟩
  injective := by
    -- The new handle is a clone and no origin of its own.
    have hold : ∀ first : Nat, (origins ++ [origin])[first]? = some first →
        origins[first]? = some first := by
      intro first hfirst
      rcases getElem?_concat_cases hfirst with hold | ⟨rfl, rfl⟩
      · exact hold
      · exact (h.origin handle _ number horigin hhandle).1
    intro first other number' hfirst hother hnumber hnumber'
    have hfirst' := hold first hfirst
    have hother' := hold other hother
    exact h.injective first other number' hfirst' hother'
      (getElem?_of_concat (h.lt_of_origin hfirst') hnumber)
      (getElem?_of_concat (h.lt_of_origin hother') hnumber')

theorem step (h : session.Traces origins) (step : Step) :
    (session.step step).2.Traces (originsAfter origins step) := by
  cases step with
  | openBoard settings caller => exact h.addBoard _
  | openFile path caller => exact h.addBoard _
  | clone handle =>
      cases horigin : origins[handle]? with
      | none =>
          rw [step_clone_of_none (h.boardOf?_eq_none horigin)]
          simp only [originsAfter, horigin]
          exact h
      | some origin =>
          rcases h.exists_boardOf? horigin with ⟨number, board, hboard, -⟩
          rw [step_clone_of_some hboard]
          simp only [originsAfter, horigin]
          exact h.addHandle horigin (boardOf?_eq_some_iff.mp hboard).1
  | call handle call caller =>
      cases hfound : session.boardOf? handle with
      | none => rwa [step_call_of_none hfound]
      | some found =>
          rw [step_call_of_some hfound]
          exact h.of_same rfl List.length_set
  | poison handle lock =>
      cases hfound : session.boardOf? handle with
      | none => rwa [step_poison_of_none hfound]
      | some found =>
          rw [step_poison_of_some hfound]
          exact h.of_same rfl List.length_set
  | load path => exact h
  | save path settings =>
      show (Session.step session (.save path settings)).2.Traces origins
      cases hsave : settings.save? session.storage path with
      | none => simpa [Session.step, hsave] using h
      | some attempt =>
          simp only [Session.step, hsave]
          exact h.of_same (handles_keep session attempt)
            (congrArg List.length (boards_keep session attempt))
  | write path content =>
      exact h.of_same (handles_keep session _) (congrArg List.length (boards_keep session _))
  | makeDirectory path =>
      exact h.of_same (handles_keep session _) (congrArg List.length (boards_keep session _))

theorem start (storage : Storage) : ({ initial with storage } : Session).Traces [] := by
  constructor
  · rfl
  · intro handle number hhandle
    cases hhandle
  · intro handle origin number horigin
    cases horigin
  · intro origin other number horigin
    cases horigin

theorem run (h : session.Traces origins) (steps : List Step) :
    (session.run steps).2.Traces (originsFrom origins steps) := by
  induction steps generalizing session origins with
  | nil => exact h
  | cons step steps ih =>
      rw [run_cons]
      exact ih (h.step step)

theorem origin_eq (h : session.Traces origins) {other origin' : Nat}
    (horigin : origins[handle]? = some origin) (hother : origins[other]? = some origin')
    (hhandle : session.handles[handle]? = some number)
    (hsame : session.handles[other]? = some number) : origin = origin' := by
  rcases h.origin handle origin number horigin hhandle with ⟨hself, hfirst⟩
  rcases h.origin other origin' number hother hsame with ⟨hself', hfirst'⟩
  exact h.injective origin origin' number hself hself' hfirst hfirst'

theorem boardOf?_eq_iff (h : session.Traces origins) (handle other : Nat) :
    session.boardOf? handle = session.boardOf? other ↔ origins[handle]? = origins[other]? := by
  cases horigin : origins[handle]? with
  | none =>
      rw [h.boardOf?_eq_none horigin]
      cases hother : origins[other]? with
      | none => simp [h.boardOf?_eq_none hother]
      | some origin =>
          rcases h.exists_boardOf? hother with ⟨number, board, hboard, -⟩
          simp [hboard]
  | some origin =>
      rcases h.exists_boardOf? horigin with ⟨number, board, hboard, hfirst⟩
      rw [hboard]
      cases hother : origins[other]? with
      | none => simp [h.boardOf?_eq_none hother]
      | some origin' =>
          constructor
          · intro hsame
            rw [h.origin_eq horigin hother (boardOf?_eq_some_iff.mp hboard).1
              (boardOf?_eq_some_iff.mp hsame.symm).1]
          · intro hsame
            cases hsame
            rcases h.exists_boardOf? hother with ⟨number', board', hboard', hfirst'⟩
            rw [← hfirst, hfirst', hboard']

end Traces

theorem boardOf?_run_eq_iff (storage : Storage) (steps : List Step) (handle other : Nat) :
    (({ initial with storage } : Session).run steps).2.boardOf? handle =
        (({ initial with storage } : Session).run steps).2.boardOf? other ↔
      (originsFrom [] steps)[handle]? = (originsFrom [] steps)[other]? :=
  ((Traces.start storage).run steps).boardOf?_eq_iff handle other

/-!
# A session and a family of it

The session in which the family is left to itself has the same handles, and the board of the family
is the same.  As long as the family is not there the files are the same as well.
-/

/-- The number of the board of a family that is there. -/
def Owns (session : Session) (family : Nat) (origins : List Nat) (number : Nat) : Prop :=
  origins[family]? = some family ∧ session.handles[family]? = some number

structure Mirrors (session other : Session) (family : Nat) (origins : List Nat) : Prop where
  traces : session.Traces origins
  parallel : Parallel
    (fun number board twin => session.Owns family origins number → twin = board) session other
  storage_eq : origins.length ≤ family → other.storage = session.storage

theorem Traces.owns_addBoard_cases {session : Session} {family number : Nat} {origins : List Nat}
    {board : Board} (h : session.Traces origins)
    (howns : (session.addBoard board).2.Owns family (origins ++ [origins.length]) number) :
    session.Owns family origins number ∨
      family = origins.length ∧ number = session.boards.length := by
  rcases howns with ⟨horigin, hnumber⟩
  rcases getElem?_concat_cases horigin with hold | ⟨hfamily, -⟩
  · exact Or.inl ⟨hold, getElem?_of_concat (h.lt_of_origin hold) hnumber⟩
  · rcases getElem?_concat_cases hnumber with hold | ⟨-, hlast⟩
    · have hlt := (List.getElem?_eq_some_iff.mp hold).1
      rw [hfamily, h.length_eq] at hlt
      exact absurd hlt (Nat.lt_irrefl _)
    · exact Or.inr ⟨hfamily, hlast⟩

theorem Traces.owns_of_addHandle {session : Session} {handle origin family number number' : Nat}
    {origins : List Nat} (h : session.Traces origins) (horigin : origins[handle]? = some origin)
    (hhandle : session.handles[handle]? = some number')
    (howns : ({ session with handles := session.handles ++ [number'] } : Session).Owns family
      (origins ++ [origin]) number) : session.Owns family origins number := by
  rcases howns with ⟨hfamily, hnumber⟩
  have hold : origins[family]? = some family := by
    rcases getElem?_concat_cases hfamily with hold | ⟨-, rfl⟩
    · exact hold
    · exact (h.origin handle _ number' horigin hhandle).1
  exact ⟨hold, getElem?_of_concat (h.lt_of_origin hold) hnumber⟩

namespace Mirrors

variable {session other : Session} {handle family origin number : Nat} {origins : List Nat}
  {board : Board}

theorem addBoard (h : session.Mirrors other family origins) {twin : Board}
    (htwin : family = origins.length → twin = board) :
    (session.addBoard board).2.Mirrors (other.addBoard twin).2 family
      (origins ++ [origins.length]) where
  traces := h.traces.addBoard board
  parallel := by
    apply Parallel.addBoard
    · apply h.parallel.imp
      intro number first second hfirst hsame howns
      rcases h.traces.owns_addBoard_cases howns with hold | ⟨-, hlast⟩
      · exact hsame hold
      · rw [hlast, List.getElem?_eq_none (Nat.le_refl _)] at hfirst
        cases hfirst
    · intro howns
      rcases h.traces.owns_addBoard_cases howns with ⟨-, hnumber⟩ | ⟨hfamily, -⟩
      · exact absurd (h.traces.number_lt family _ hnumber) (Nat.lt_irrefl _)
      · exact htwin hfamily
  storage_eq := by
    intro hle
    rw [List.length_append] at hle
    exact h.storage_eq (Nat.le_of_succ_le hle)

theorem addHandle (h : session.Mirrors other family origins)
    (horigin : origins[handle]? = some origin)
    (hhandle : session.handles[handle]? = some number) :
    ({ session with handles := session.handles ++ [number] } : Session).Mirrors
      { other with handles := other.handles ++ [number] } family (origins ++ [origin]) where
  traces := h.traces.addHandle horigin hhandle
  parallel := by
    apply Parallel.addHandle
    apply h.parallel.imp
    intro there first second _ hsame howns
    exact hsame (h.traces.owns_of_addHandle horigin hhandle howns)
  storage_eq := by
    intro hle
    rw [List.length_append] at hle
    exact h.storage_eq (Nat.le_of_succ_le hle)

theorem setBoard (h : session.Mirrors other family origins) (number : Nat) (after : Board) :
    (session.setBoard number after).Mirrors (other.setBoard number after) family origins where
  traces := h.traces.of_same rfl List.length_set
  parallel := h.parallel.setBoard fun _ => rfl
  storage_eq := h.storage_eq

theorem setBoard_left (h : session.Mirrors other family origins)
    (hforeign : ¬ session.Owns family origins number) (after : Board) :
    (session.setBoard number after).Mirrors other family origins where
  traces := h.traces.of_same rfl List.length_set
  parallel := h.parallel.setBoard_left fun _ _ howns => absurd howns hforeign
  storage_eq := h.storage_eq

theorem withStorage (h : session.Mirrors other family origins) {storage storage' : Storage}
    (hsame : origins.length ≤ family → storage' = storage) :
    ({ session with storage } : Session).Mirrors { other with storage := storage' } family
      origins where
  traces := h.traces.of_same rfl rfl
  parallel := ⟨h.parallel.handles_eq, h.parallel.length_eq, h.parallel.boards⟩
  storage_eq := hsame

theorem keep (h : session.Mirrors other family origins) {ε : Type} (attempt : Except ε Storage) :
    (session.keep attempt).Mirrors (other.keep attempt) family origins := by
  cases attempt with
  | error fault => exact h
  | ok storage => exact h.withStorage fun _ => rfl

theorem keep_left (h : session.Mirrors other family origins) {ε : Type} (attempt : Except ε Storage)
    (hlt : family < origins.length) : (session.keep attempt).Mirrors other family origins := by
  cases attempt with
  | error fault => exact h
  | ok storage => exact h.withStorage fun hle => absurd hlt (Nat.not_lt.mpr hle)

theorem exists_boardOf? (h : session.Mirrors other family origins)
    (horigin : origins[handle]? = some family) :
    ∃ number board, session.boardOf? handle = some (number, board) ∧
      other.boardOf? family = some (number, board) := by
  rcases h.traces.exists_boardOf? horigin with ⟨number, board, hboard, hfirst⟩
  rcases h.parallel.exists_boardOf? hfirst with ⟨twin, htwin, hsame⟩
  have hhandle := (boardOf?_eq_some_iff.mp hboard).1
  have howns : session.Owns family origins number :=
    h.traces.origin handle family number horigin hhandle
  rw [hsame howns] at htwin
  exact ⟨number, board, hboard, htwin⟩

theorem not_owns (h : session.Mirrors other family origins)
    (hforeign : origins[handle]? ≠ some family)
    (hhandle : session.handles[handle]? = some number) : ¬ session.Owns family origins number := by
  rintro ⟨hfamily, hnumber⟩
  cases horigin : origins[handle]? with
  | none =>
      have hlt := (List.getElem?_eq_some_iff.mp hhandle).1
      rw [List.getElem?_eq_none_iff, h.traces.length_eq] at horigin
      exact absurd hlt (Nat.not_lt.mpr horigin)
  | some origin =>
      have hsame := h.traces.origin_eq horigin hfamily hhandle hnumber
      exact hforeign (hsame ▸ horigin)

end Mirrors

/-!
# Steps of both sessions
-/

/-- What a step comes to for a family: it is mirrored, and the family hears what it should hear. -/
structure MirrorsStep (session other : Session) (family : Nat) (origins : List Nat) (step : Step) :
    Prop where
  mirrors : (session.step step).2.Mirrors
    (other.run (isolateStep? family origins step).toList).2 family (originsAfter origins step)
  heard : (other.run (isolateStep? family origins step).toList).1.filter Outcome.isReply =
    if step.isCallOn family origins then [(session.step step).1] else []

namespace Mirrors

variable {session other : Session} {family : Nat} {origins : List Nat}

theorem exists_clone (h : session.Mirrors other family origins) {handle origin : Nat}
    (horigin : origins[handle]? = some origin) :
    ∃ target number board twin, isolateStep? family origins (.clone handle) = some (.clone target) ∧
      session.boardOf? handle = some (number, board) ∧
      other.boardOf? target = some (number, twin) := by
  by_cases hfamily : origins[handle]? = some family
  · rcases h.exists_boardOf? hfamily with ⟨number, board, hboard, htwin⟩
    exact ⟨family, number, board, board, by simp [isolateStep?, hfamily], hboard, htwin⟩
  · rcases h.traces.exists_boardOf? horigin with ⟨number, board, hboard, -⟩
    rcases h.parallel.exists_boardOf? hboard with ⟨twin, htwin, -⟩
    exact ⟨handle, number, board, twin, by simp [isolateStep?, hfamily], hboard, htwin⟩

theorem step_clone (h : session.Mirrors other family origins) (handle : Nat) :
    MirrorsStep session other family origins (.clone handle) := by
  cases horigin : origins[handle]? with
  | none =>
      have hnone := h.traces.boardOf?_eq_none horigin
      have hisolate : isolateStep? family origins (.clone handle) = some (.clone handle) := by
        simp [isolateStep?, horigin]
      have hafter : originsAfter origins (.clone handle) = origins := by
        simp [originsAfter, horigin]
      constructor
      · rw [hisolate, hafter, Option.toList_some, run_cons, step_clone_of_none hnone,
          step_clone_of_none (h.parallel.boardOf?_eq_none hnone)]
        exact h
      · rw [hisolate, Option.toList_some, run_cons,
          step_clone_of_none (h.parallel.boardOf?_eq_none hnone)]
        rfl
  | some origin =>
      rcases h.exists_clone horigin with ⟨target, number, board, twin, hisolate, hboard, htwin⟩
      have hafter : originsAfter origins (.clone handle) = origins ++ [origin] := by
        simp [originsAfter, horigin]
      constructor
      · rw [hisolate, hafter, Option.toList_some, run_cons, step_clone_of_some hboard,
          step_clone_of_some htwin]
        exact h.addHandle horigin (boardOf?_eq_some_iff.mp hboard).1
      · rw [hisolate, Option.toList_some, run_cons, step_clone_of_some htwin]
        rfl

theorem mirrorsStep_of_own (h : session.Mirrors other family origins) {step own : Step}
    {outcome : Outcome} {number : Nat} {after : Board}
    (hisolate : isolateStep? family origins step = some own)
    (hafter : originsAfter origins step = origins)
    (hstep : session.step step = (outcome, session.setBoard number after))
    (hown : other.step own = (outcome, other.setBoard number after))
    (hheard : [outcome].filter Outcome.isReply =
      if step.isCallOn family origins then [outcome] else []) :
    MirrorsStep session other family origins step := by
  constructor
  · rw [hisolate, hafter, Option.toList_some, run_cons, hstep, hown]
    exact h.setBoard number after
  · rw [hisolate, Option.toList_some, run_cons, hstep, hown]
    exact hheard

/-- What is done on a handle of another family is left out; it can only set another board. -/
theorem mirrorsStep_of_foreign (h : session.Mirrors other family origins) {step : Step}
    {handle : Nat} (hforeign : origins[handle]? ≠ some family)
    (hisolate : isolateStep? family origins step = none)
    (hafter : originsAfter origins step = origins) (hcall : step.isCallOn family origins = false)
    (hstep : (session.step step).2 = session ∨ ∃ number after,
      session.handles[handle]? = some number ∧
        (session.step step).2 = session.setBoard number after) :
    MirrorsStep session other family origins step := by
  constructor
  · rw [hisolate, hafter]
    rcases hstep with hsame | ⟨number, after, hhandle, hset⟩
    · rw [hsame]
      exact h
    · rw [hset]
      exact h.setBoard_left (h.not_owns hforeign hhandle) after
  · rw [hisolate, hcall]
    rfl

theorem step_call (h : session.Mirrors other family origins) (handle : Nat) (call : Call)
    (caller : Caller) : MirrorsStep session other family origins (.call handle call caller) := by
  by_cases horigin : origins[handle]? = some family
  · rcases h.exists_boardOf? horigin with ⟨number, board, hboard, htwin⟩
    have hisolate : isolateStep? family origins (.call handle call caller) =
        some (.call family call caller) := if_pos horigin
    have hcall : Step.isCallOn family origins (.call handle call caller) = true :=
      decide_eq_true horigin
    apply h.mirrorsStep_of_own hisolate rfl (step_call_of_some hboard call caller)
      (step_call_of_some htwin call caller)
    rw [hcall]
    rfl
  · have hisolate : isolateStep? family origins (.call handle call caller) = none := if_neg horigin
    apply h.mirrorsStep_of_foreign horigin hisolate rfl (decide_eq_false horigin)
    cases hfound : session.boardOf? handle with
    | none => exact Or.inl (congrArg Prod.snd (step_call_of_none hfound call caller))
    | some found =>
        exact Or.inr ⟨_, _, (boardOf?_eq_some_iff.mp hfound).1,
          congrArg Prod.snd (step_call_of_some hfound call caller)⟩

theorem step_poison (h : session.Mirrors other family origins) (handle : Nat) (lock : Lock) :
    MirrorsStep session other family origins (.poison handle lock) := by
  by_cases horigin : origins[handle]? = some family
  · rcases h.exists_boardOf? horigin with ⟨number, board, hboard, htwin⟩
    have hisolate : isolateStep? family origins (.poison handle lock) =
        some (.poison family lock) := if_pos horigin
    exact h.mirrorsStep_of_own hisolate rfl (step_poison_of_some hboard lock)
      (step_poison_of_some htwin lock) rfl
  · have hisolate : isolateStep? family origins (.poison handle lock) = none := if_neg horigin
    apply h.mirrorsStep_of_foreign horigin hisolate rfl rfl
    cases hfound : session.boardOf? handle with
    | none => exact Or.inl (congrArg Prod.snd (step_poison_of_none hfound lock))
    | some found =>
        exact Or.inr ⟨_, _, (boardOf?_eq_some_iff.mp hfound).1,
          congrArg Prod.snd (step_poison_of_some hfound lock)⟩

/-- A change of the files is mirrored as long as the family is not there, and then left out. -/
theorem mirrorsStep_of_files {step : Step}
    (hisolate : isolateStep? family origins step =
      if family < origins.length then none else some step)
    (hafter : originsAfter origins step = origins) (hcall : step.isCallOn family origins = false)
    (hreply : (other.step step).1.isReply = false)
    (hleft : family < origins.length → (session.step step).2.Mirrors other family origins)
    (hboth : origins.length ≤ family →
      (session.step step).2.Mirrors (other.step step).2 family origins) :
    MirrorsStep session other family origins step := by
  by_cases hlt : family < origins.length
  · rw [if_pos hlt] at hisolate
    constructor
    · rw [hisolate, hafter]
      exact hleft hlt
    · rw [hisolate, hcall]
      rfl
  · rw [if_neg hlt] at hisolate
    constructor
    · rw [hisolate, hafter]
      exact hboth (Nat.le_of_not_lt hlt)
    · rw [hisolate, hcall, Option.toList_some, run_cons, run_nil, List.filter_cons_of_neg]
      · rfl
      · rw [hreply]
        exact Bool.false_ne_true

theorem step_save (h : session.Mirrors other family origins) (path : String) (settings : Settings) :
    MirrorsStep session other family origins (.save path settings) := by
  apply mirrorsStep_of_files rfl rfl rfl
  · cases hsave : settings.save? other.storage path <;> simp [Session.step, hsave, Outcome.isReply]
  · intro hlt
    cases hsave : settings.save? session.storage path with
    | none => simpa [Session.step, hsave] using h
    | some attempt => simpa [Session.step, hsave] using h.keep_left attempt hlt
  · intro hle
    cases hsave : settings.save? session.storage path with
    | none => simpa [Session.step, hsave, h.storage_eq hle] using h
    | some attempt => simpa [Session.step, hsave, h.storage_eq hle] using h.keep attempt

theorem step (h : session.Mirrors other family origins) (step : Step) :
    MirrorsStep session other family origins step := by
  cases step with
  | openBoard settings caller => exact ⟨h.addBoard fun _ => rfl, rfl⟩
  | openFile path caller =>
      refine ⟨h.addBoard ?_, rfl⟩
      intro hfamily
      rw [h.storage_eq (Nat.le_of_eq hfamily.symm)]
  | clone handle => exact h.step_clone handle
  | call handle call caller => exact h.step_call handle call caller
  | poison handle lock => exact h.step_poison handle lock
  | load path => exact ⟨h, rfl⟩
  | save path settings => exact h.step_save path settings
  | write path content =>
      apply mirrorsStep_of_files rfl rfl rfl rfl
      · exact h.keep_left _
      · intro hle
        simp only [Session.step, h.storage_eq hle]
        exact h.keep _
  | makeDirectory path =>
      apply mirrorsStep_of_files rfl rfl rfl rfl
      · exact h.keep_left _
      · intro hle
        simp only [Session.step, h.storage_eq hle]
        exact h.keep _

end Mirrors

theorem heard_isolate {session other : Session} {family : Nat} {origins : List Nat}
    (h : session.Mirrors other family origins) (steps : List Step) :
    (session.run steps).2.Mirrors (other.run (isolate family origins steps)).2 family
        (originsFrom origins steps) ∧
      callOutcomes family origins steps (session.run steps).1 =
        (other.run (isolate family origins steps)).1.filter Outcome.isReply := by
  -- Origins grow with the session, so the induction is for all of them, related by `Mirrors`.
  induction steps generalizing session other origins with
  | nil => exact ⟨h, rfl⟩
  | cons step steps ih =>
      rcases h.step step with ⟨hmirrors, hheard⟩
      rcases ih hmirrors with ⟨hlast, hrest⟩
      rw [isolate, run_append, List.filter_append, hheard, run_cons, callOutcomes, hrest]
      exact ⟨hlast, rfl⟩

/-- A family hears the same when it is left to itself, and its handles lead to the same board. -/
structure KeepsToItself (session : Session) (family : Nat) (steps : List Step) : Prop where
  outcomes : callOutcomes family [] steps (session.run steps).1 =
    (session.run (isolate family [] steps)).1.filter Outcome.isReply
  board : ∀ handle : Nat, (originsFrom [] steps)[handle]? = some family → ∃ number board,
    (session.run steps).2.boardOf? handle = some (number, board) ∧
      (session.run (isolate family [] steps)).2.boardOf? family = some (number, board)

theorem mirrors_start (storage : Storage) (family : Nat) :
    ({ initial with storage } : Session).Mirrors { initial with storage } family [] where
  traces := .start storage
  parallel := by
    refine ⟨rfl, rfl, ?_⟩
    intro number board twin hboard
    cases hboard
  storage_eq := fun _ => rfl

theorem keepsToItself (storage : Storage) (family : Nat) (steps : List Step) :
    ({ initial with storage } : Session).KeepsToItself family steps := by
  rcases heard_isolate (mirrors_start storage family) steps with ⟨hmirrors, houtcomes⟩
  refine ⟨houtcomes, ?_⟩
  intro handle horigin
  exact hmirrors.exists_boardOf? horigin

/-- The family of the first handle has a clone; the second handle and the late file are left out. -/
example (settings : Settings) (message : Message) (content : ByteArray) (caller : Caller) :
    isolate 0 []
        [.openBoard settings caller, .openBoard settings caller, .clone 0,
          .call 2 (.post message) caller, .call 1 .clear caller, .poison 1 .log,
          .write "studio.toml" content, .call 0 .get caller] =
      [.openBoard settings caller, .openBoard settings caller, .clone 0,
        .call 0 (.post message) caller, .call 0 .get caller] := rfl

end Session
end MessageBoard
