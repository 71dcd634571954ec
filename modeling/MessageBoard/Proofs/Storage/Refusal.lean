import MessageBoard.Proofs.Storage.ReadBack

/-!
# Paths that cannot be written

A file is written where its path leads, unless the path is none at all, stops on its way, or leads
to a directory.  Each reason has its fault, and no other fault comes of writing.  A write that
succeeds changes the one file and neither makes nor takes away a directory, so every other file
stays where it was.
-/

namespace MessageBoard

theorem bind_eq_error_iff {ε α β : Type} {first : Except ε α} {next : α → Except ε β} {fault : ε} :
    first >>= next = .error fault ↔
      first = .error fault ∨ ∃ a, first = .ok a ∧ next a = .error fault := by
  cases first with
  | error found =>
      constructor
      · intro h
        cases h
        exact Or.inl rfl
      · rintro (h | ⟨a, ⟨⟩, -⟩)
        cases h
        rfl
  | ok a =>
      constructor
      · intro h
        exact Or.inr ⟨a, rfl, h⟩
      · rintro (h | ⟨_, ⟨⟩, h⟩)
        · cases h
        · exact h

theorem foldlM_eq_error_iff {ε α β : Type} {next : α → β → Except ε α} {bs : List β} {a : α}
    {fault : ε} :
    bs.foldlM next a = .error fault ↔
      ∃ before b after a', bs = before ++ b :: after ∧ before.foldlM next a = .ok a' ∧
        next a' b = .error fault := by
  induction bs generalizing a with
  | nil =>
      constructor
      · intro h
        cases h
      · rintro ⟨before, b, after, a', hsplit, -⟩
        cases before <;> cases hsplit
  | cons first bs ih =>
      rw [List.foldlM_cons, bind_eq_error_iff]
      constructor
      · rintro (hfirst | ⟨middle, hmiddle, hrest⟩)
        · exact ⟨[], first, bs, a, rfl, rfl, hfirst⟩
        · rcases ih.mp hrest with ⟨before, b, after, a', rfl, hbefore, hb⟩
          refine ⟨first :: before, b, after, a', rfl, ?_, hb⟩
          rw [List.foldlM_cons]
          exact bind_eq_ok_iff.mpr ⟨middle, hmiddle, hbefore⟩
      · rintro ⟨before, b, after, a', hsplit, hbefore, hb⟩
        cases before with
        | nil =>
            injection hsplit with hfirst hbs
            cases hbefore
            exact Or.inl (hfirst ▸ hb)
        | cons first' before =>
            injection hsplit with hfirst hbs
            subst hfirst
            rw [List.foldlM_cons] at hbefore
            rcases bind_eq_ok_iff.mp hbefore with ⟨middle, hmiddle, hrest⟩
            exact Or.inr ⟨middle, hmiddle, ih.mpr ⟨before, b, after, a', hbs, hrest, hb⟩⟩

namespace Storage

/-!
# Reasons
-/

/-- No path leads on from a place, since there is no directory. -/
inductive Blocks (storage : Storage) (place : Place) : Fault → Prop where
  | missing (hitem : storage.item? place = none) : Blocks storage place .missing
  | file {content : ByteArray} (hitem : storage.item? place = some (.file content)) :
      Blocks storage place .notDirectory

def IsLongName (part : String) : Prop :=
  part ≠ "." ∧ part ≠ ".." ∧ nameLimit < part.utf8ByteSize

/-- A file at a path cannot be opened for writing. -/
inductive Refuses (storage : Storage) (text : String) : Fault → Prop where
  | nul (hnul : '\x00' ∈ text.toList) : Refuses storage text .nulInName
  | empty (hempty : text = "") : Refuses storage text .missing
  | longPath (hnul : '\x00' ∉ text.toList) (hlong : pathLimit < text.utf8ByteSize) :
      Refuses storage text .nameTooLong
  /-- Something that should hold the file, or hold what holds it, is no directory. -/
  | parent {path : Path} {before after : List String} {part : String} {place : Place}
      {fault : Fault} (hpath : Path.ofText text = .ok path)
      (hparts : path.parts = before ++ part :: after)
      (hfollow : storage.follow path.start before = .ok place)
      (hblocks : storage.Blocks place fault) : Refuses storage text fault
  | longName {path : Path} {before after : List String} {part : String} {place : Place}
      (hpath : Path.ofText text = .ok path) (hparts : path.parts = before ++ part :: after)
      (hread : after ≠ [] ∨ path.forDirectory = false)
      (hfollow : storage.follow path.start before = .ok place)
      (hitem : storage.item? place = some .directory) (hlong : IsLongName part) :
      Refuses storage text .nameTooLong
  /-- The path ends with a slash; what comes before the slash need not be there. -/
  | slash {path : Path} {place : Place} (hpath : Path.ofText text = .ok path)
      (hslash : path.forDirectory = true)
      (hfollow : storage.follow path.start path.parts.dropLast = .ok place)
      (hitem : storage.item? place = some .directory) : Refuses storage text .isDirectory
  | directory {path : Path} {place : Place} (hpath : Path.ofText text = .ok path)
      (hslash : path.forDirectory = false)
      (hfollow : storage.follow path.start path.parts = .ok place)
      (hitem : storage.item? place = some .directory) : Refuses storage text .isDirectory

/-!
# Single steps
-/

section Steps

variable {storage : Storage} {text part : String} {place : Place} {fault : Fault}

theorem ofText_eq_error_iff :
    Path.ofText text = .error fault ↔
      ('\x00' ∈ text.toList ∧ fault = .nulInName) ∨ (text = "" ∧ fault = .missing) ∨
        ('\x00' ∉ text.toList ∧ pathLimit < text.utf8ByteSize ∧ fault = .nameTooLong) := by
  unfold Path.ofText
  by_cases hnul : '\x00' ∈ text.toList
  · have hne : text ≠ "" := by
      rintro rfl
      cases hnul
    simp [hnul, hne, eq_comm]
  · by_cases hempty : text = ""
    · subst hempty
      simp [eq_comm, pathLimit]
    · by_cases hlong : pathLimit < text.utf8ByteSize
      · simp [hnul, hempty, hlong, eq_comm]
      · simp [hnul, hempty, hlong]

theorem enter_eq_ok_iff : storage.enter place = .ok () ↔ storage.item? place = some .directory := by
  unfold enter
  split <;> simp_all

theorem enter_eq_error_iff : storage.enter place = .error fault ↔ storage.Blocks place fault := by
  unfold enter
  constructor
  · intro h
    split at h
    · cases h
      exact .missing ‹_›
    · cases h
      exact .file ‹_›
    · cases h
  · rintro (hitem | hitem) <;> rw [hitem]

theorem step_eq_error_iff :
    storage.step place part = .error fault ↔
      storage.Blocks place fault ∨
        storage.item? place = some .directory ∧ IsLongName part ∧ fault = .nameTooLong := by
  have hname : (if part = "." then .ok place
      else if part = ".." then .ok place.parent
      else if nameLimit < part.utf8ByteSize then .error .nameTooLong
      else .ok (place.child part) : Except Fault Place) = .error fault ↔
        IsLongName part ∧ fault = .nameTooLong := by
    unfold IsLongName
    by_cases hdot : part = "."
    · simp [hdot]
    · by_cases hdots : part = ".."
      · simp [hdots]
      · by_cases hlong : nameLimit < part.utf8ByteSize
        · simp [hdot, hdots, hlong, eq_comm]
        · simp [hdot, hdots, hlong]
  unfold step
  rw [bind_eq_error_iff, enter_eq_error_iff, hname]
  apply or_congr_right
  constructor
  · rintro ⟨⟨⟩, henter, hlong⟩
    exact ⟨enter_eq_ok_iff.mp henter, hlong⟩
  · rintro ⟨hitem, hlong⟩
    exact ⟨(), enter_eq_ok_iff.mpr hitem, hlong⟩

end Steps

/-!
# Whole paths
-/

section Paths

variable {storage : Storage} {text : String} {fault : Fault}

theorem Refuses.of_ofText (h : Path.ofText text = .error fault) : storage.Refuses text fault := by
  rcases ofText_eq_error_iff.mp h with ⟨hnul, rfl⟩ | ⟨hempty, rfl⟩ | ⟨hnul, hlong, rfl⟩
  · exact .nul hnul
  · exact .empty hempty
  · exact .longPath hnul hlong

theorem Refuses.of_step {path : Path} {before after : List String} {part : String} {place : Place}
    (hpath : Path.ofText text = .ok path) (hparts : path.parts = before ++ part :: after)
    (hread : after ≠ [] ∨ path.forDirectory = false)
    (hfollow : storage.follow path.start before = .ok place)
    (hstep : storage.step place part = .error fault) : storage.Refuses text fault := by
  rcases step_eq_error_iff.mp hstep with hblocks | ⟨hitem, hlong, rfl⟩
  · exact .parent hpath hparts hfollow hblocks
  · exact .longName hpath hparts hread hfollow hitem hlong

theorem follow_concat {start : Start} {before : List String} {part : String} {place : Place}
    (hfollow : storage.follow start before = .ok place) :
    storage.follow start (before ++ [part]) = storage.step place part := by
  unfold follow at hfollow ⊢
  rw [List.foldlM_append, hfollow]
  show storage.step place part >>= _ = _
  cases storage.step place part <;> rfl

theorem refuses_of_locateFile (h : storage.locateFile text = .error fault) :
    storage.Refuses text fault := by
  unfold locateFile at h
  rcases bind_eq_error_iff.mp h with htext | ⟨path, hpath, h⟩
  · exact .of_ofText htext
  · rcases bind_eq_error_iff.mp h with hfollow | ⟨place, hfollow, h⟩
    · rcases foldlM_eq_error_iff.mp hfollow with
        ⟨before, part, after, place, hsplit, hbefore, hstep⟩
      have hnonempty : path.parts ≠ [] := by
        intro hnil
        rw [hnil] at hsplit
        cases before <;> cases hsplit
      -- The last part was not followed here, so it comes after the one that stops the way.
      have hparts : path.parts = before ++ part :: (after ++ [path.parts.getLast hnonempty]) := by
        rw [← List.cons_append, ← List.append_assoc, ← hsplit, List.dropLast_concat_getLast]
      exact .of_step hpath hparts (Or.inl (List.concat_ne_nil _ _)) hbefore hstep
    · cases hlast : path.parts.getLast? with
      | none =>
          rw [hlast] at h
          cases h
          have hnil := List.getLast?_eq_none_iff.mp hlast
          rw [hnil] at hfollow
          cases hfollow
          cases hslash : path.forDirectory with
          | true => exact .slash hpath hslash (by rw [hnil]; rfl) rfl
          | false => exact .directory hpath hslash (by rw [hnil]; rfl) rfl
      | some part =>
          have hparts : path.parts = path.parts.dropLast ++ [part] := by
            rcases List.getLast?_eq_some_iff.mp hlast with ⟨earlier, hparts⟩
            rw [hparts, List.dropLast_concat]
          rw [hlast] at h
          cases hslash : path.forDirectory with
          | true =>
              rw [hslash] at h
              rcases bind_eq_error_iff.mp h with henter | ⟨⟨⟩, henter, ⟨⟩⟩
              · exact .parent hpath hparts hfollow (enter_eq_error_iff.mp henter)
              · exact .slash hpath hslash hfollow (enter_eq_ok_iff.mp henter)
          | false =>
              rw [hslash] at h
              exact .of_step hpath hparts (Or.inr hslash) hfollow h

/-!
Conversely every reason keeps a path from being written: either the way to the last part cannot be
gone, or the last part is looked at and found wanting.
-/

theorem locateFile_of_ofText (h : Path.ofText text = .error fault) :
    storage.locateFile text = .error fault := by
  unfold locateFile
  rw [h]
  rfl

theorem locateFile_nil {path : Path} (hpath : Path.ofText text = .ok path)
    (hparts : path.parts = []) : storage.locateFile text = .error .isDirectory := by
  unfold locateFile
  rw [hpath]
  show storage.follow path.start path.parts.dropLast >>= _ = _
  rw [hparts]
  rfl

theorem locateFile_concat {path : Path} {before : List String} {part : String} {place : Place}
    (hpath : Path.ofText text = .ok path) (hparts : path.parts = before ++ [part])
    (hfollow : storage.follow path.start before = .ok place) :
    storage.locateFile text =
      if path.forDirectory then do
        storage.enter place
        .error .isDirectory
      else storage.step place part := by
  unfold locateFile
  rw [hpath]
  show storage.follow path.start path.parts.dropLast >>= _ = _
  rw [hparts, List.dropLast_concat, hfollow]
  simp [bind, Except.bind]

theorem locateFile_of_step {path : Path} {before after : List String} {part : String}
    {place : Place} (hpath : Path.ofText text = .ok path)
    (hparts : path.parts = before ++ part :: after)
    (hread : after ≠ [] ∨ path.forDirectory = false)
    (hfollow : storage.follow path.start before = .ok place)
    (hstep : storage.step place part = .error fault) : storage.locateFile text = .error fault := by
  cases hafter : after with
  | nil =>
      have hslash : path.forDirectory = false := hread.resolve_left (fun hne => hne hafter)
      rw [hafter] at hparts
      rw [locateFile_concat hpath hparts hfollow, hslash]
      exact hstep
  | cons next rest =>
      have hdropLast : path.parts.dropLast = before ++ part :: (next :: rest).dropLast := by
        rw [hparts, hafter, List.dropLast_append_of_ne_nil (List.cons_ne_nil _ _)]
        rfl
      unfold locateFile
      refine bind_eq_error_iff.mpr (Or.inr ⟨path, hpath, bind_eq_error_iff.mpr (Or.inl ?_)⟩)
      exact foldlM_eq_error_iff.mpr ⟨before, part, _, place, hdropLast, hfollow, hstep⟩

theorem locateFile_of_blocks {path : Path} {before after : List String} {part : String}
    {place : Place} (hpath : Path.ofText text = .ok path)
    (hparts : path.parts = before ++ part :: after)
    (hfollow : storage.follow path.start before = .ok place)
    (hblocks : storage.Blocks place fault) : storage.locateFile text = .error fault := by
  have hstep : storage.step place part = .error fault := step_eq_error_iff.mpr (Or.inl hblocks)
  by_cases hread : after ≠ [] ∨ path.forDirectory = false
  · exact locateFile_of_step hpath hparts hread hfollow hstep
  · -- The name before a slash at the end is not looked at, but the place where it should be is.
    have hafter : after = [] := Classical.not_not.mp fun hne => hread (Or.inl hne)
    have hslash : path.forDirectory = true := by
      cases hslash : path.forDirectory with
      | true => rfl
      | false => exact absurd (Or.inr hslash) hread
    rw [hafter] at hparts
    rw [locateFile_concat hpath hparts hfollow, hslash]
    exact bind_eq_error_iff.mpr (Or.inl (enter_eq_error_iff.mpr hblocks))

theorem locateFile_of_slash {path : Path} {place : Place} (hpath : Path.ofText text = .ok path)
    (hslash : path.forDirectory = true)
    (hfollow : storage.follow path.start path.parts.dropLast = .ok place)
    (hitem : storage.item? place = some .directory) :
    storage.locateFile text = .error .isDirectory := by
  cases hlast : path.parts.getLast? with
  | none => exact locateFile_nil hpath (List.getLast?_eq_none_iff.mp hlast)
  | some part =>
      rcases List.getLast?_eq_some_iff.mp hlast with ⟨before, hparts⟩
      rw [hparts, List.dropLast_concat] at hfollow
      rw [locateFile_concat hpath hparts hfollow, hslash]
      exact bind_eq_error_iff.mpr (Or.inr ⟨(), enter_eq_ok_iff.mpr hitem, rfl⟩)

theorem locateFile_of_follow {path : Path} {before : List String} {part : String} {place : Place}
    (hpath : Path.ofText text = .ok path) (hparts : path.parts = before ++ [part])
    (hslash : path.forDirectory = false)
    (hfollow : storage.follow path.start path.parts = .ok place) :
    storage.locateFile text = .ok place := by
  rw [hparts] at hfollow
  unfold follow at hfollow
  rw [List.foldlM_append] at hfollow
  rcases bind_eq_ok_iff.mp hfollow with ⟨middle, hbefore, hlast⟩
  rw [locateFile_concat hpath hparts hbefore, hslash, if_neg Bool.false_ne_true,
    ← follow_concat hbefore, follow, List.foldlM_append]
  exact bind_eq_ok_iff.mpr ⟨middle, hbefore, hlast⟩

theorem write_of_directory {path : Path} {place : Place} (hpath : Path.ofText text = .ok path)
    (hslash : path.forDirectory = false)
    (hfollow : storage.follow path.start path.parts = .ok place)
    (hitem : storage.item? place = some .directory) (content : ByteArray) :
    storage.write text content = .error .isDirectory := by
  unfold write
  cases hlast : path.parts.getLast? with
  | none =>
      rw [locateFile_nil hpath (List.getLast?_eq_none_iff.mp hlast)]
      rfl
  | some part =>
      rcases List.getLast?_eq_some_iff.mp hlast with ⟨before, hparts⟩
      have hlocate := locateFile_of_follow hpath hparts hslash hfollow
      refine bind_eq_error_iff.mpr (Or.inr ⟨place, hlocate, ?_⟩)
      simp only [hitem]

theorem write_eq_error_iff {content : ByteArray} :
    storage.write text content = .error fault ↔ storage.Refuses text fault := by
  constructor
  · intro h
    unfold write at h
    rcases bind_eq_error_iff.mp h with hlocate | ⟨place, hlocate, h⟩
    · exact refuses_of_locateFile hlocate
    · rcases locateFile_eq_ok_iff.mp hlocate with
        ⟨path, before, part, hpath, hlast, hslash, hfollow, hstep⟩
      rcases List.getLast?_eq_some_iff.mp hlast with ⟨earlier, hparts⟩
      rw [hparts, List.dropLast_concat] at hfollow
      split at h
      · cases h
        refine .directory hpath hslash ?_ ‹_›
        rw [hparts, follow_concat hfollow, hstep]
      · cases h
  · intro h
    have hlocate : storage.locateFile text = .error fault →
        storage.write text content = .error fault := by
      intro hlocate
      unfold write
      rw [hlocate]
      rfl
    cases h with
    | nul hnul =>
        exact hlocate (locateFile_of_ofText (ofText_eq_error_iff.mpr (Or.inl ⟨hnul, rfl⟩)))
    | empty hempty =>
        exact hlocate (locateFile_of_ofText
          (ofText_eq_error_iff.mpr (Or.inr (Or.inl ⟨hempty, rfl⟩))))
    | longPath hnul hlong =>
        exact hlocate (locateFile_of_ofText
          (ofText_eq_error_iff.mpr (Or.inr (Or.inr ⟨hnul, hlong, rfl⟩))))
    | parent hpath hparts hfollow hblocks =>
        exact hlocate (locateFile_of_blocks hpath hparts hfollow hblocks)
    | longName hpath hparts hread hfollow hitem hlong =>
        have hstep := step_eq_error_iff.mpr (Or.inr ⟨hitem, hlong, rfl⟩)
        exact hlocate (locateFile_of_step hpath hparts hread hfollow hstep)
    | slash hpath hslash hfollow hitem =>
        exact hlocate (locateFile_of_slash hpath hslash hfollow hitem)
    | directory hpath hslash hfollow hitem =>
        exact write_of_directory hpath hslash hfollow hitem content

theorem not_refuses_of_write {saved : Storage} {content : ByteArray}
    (h : storage.write text content = .ok saved) (fault : Fault) :
    ¬ storage.Refuses text fault := by
  intro hrefuses
  rw [write_eq_error_iff.mpr hrefuses] at h
  cases h

theorem refuses_unique {other : Fault} (h : storage.Refuses text fault)
    (hother : storage.Refuses text other) : fault = other := by
  have hwrite : storage.write text .empty = .error fault := write_eq_error_iff.mpr h
  rw [write_eq_error_iff.mpr hother] at hwrite
  exact (Except.error.inj hwrite).symm

end Paths

/-!
# Other files

Before and after a write the same places are directories, so every path leads where it led.
-/

section Elsewhere

variable {storage storage' : Storage} {text : String} {place : Place} {content : ByteArray}

theorem KeepsDirectories.locate (h : storage.KeepsDirectories storage')
    (hlocate : storage.locate text = .ok place) : storage'.locate text = .ok place := by
  unfold Storage.locate at hlocate ⊢
  rcases bind_eq_ok_iff.mp hlocate with ⟨path, hpath, hlocate⟩
  rcases bind_eq_ok_iff.mp hlocate with ⟨found, hfollow, hlocate⟩
  refine bind_eq_ok_iff.mpr ⟨path, hpath, bind_eq_ok_iff.mpr ⟨found, h.foldlM_step hfollow, ?_⟩⟩
  cases hslash : path.forDirectory with
  | false =>
      rw [hslash] at hlocate
      exact hlocate
  | true =>
      rw [hslash] at hlocate
      rcases bind_eq_ok_iff.mp hlocate with ⟨⟨⟩, henter, hplace⟩
      exact bind_eq_ok_iff.mpr ⟨(), h.enter henter, hplace⟩

theorem keepsDirectories_of_put (h : storage.item? place ≠ some .directory) :
    (storage.put place (.file content)).KeepsDirectories storage := by
  intro other hother
  by_cases hne : other = place
  · subst hne
    rw [item?_put (names_ne_nil h)] at hother
    cases hother
  · rwa [item?_put_of_ne hne] at hother

theorem read_eq_ok_iff {found : ByteArray} :
    storage.read text = .ok found ↔
      ∃ place, storage.locate text = .ok place ∧ storage.item? place = some (.file found) := by
  unfold read
  rw [bind_eq_ok_iff]
  constructor
  · rintro ⟨place, hlocate, hitem⟩
    refine ⟨place, hlocate, ?_⟩
    split at hitem
    · cases hitem
    · cases hitem
    · cases hitem
      assumption
  · rintro ⟨place, hlocate, hitem⟩
    exact ⟨place, hlocate, by rw [hitem]⟩

/--
A file has the given content, and everything else is as it was, also when it is read through paths.
-/
structure ReplacesFile (storage saved : Storage) (text : String) (content : ByteArray) : Prop where
  read : saved.read text = .ok content
  item : ∃ place, storage.locateFile text = .ok place ∧ saved.item? place = some (.file content) ∧
    ∀ other, other ≠ place → saved.item? other = storage.item? other
  elsewhere : ∀ other, saved.locate other ≠ saved.locate text →
    ∀ found, saved.read other = .ok found ↔ storage.read other = .ok found

theorem replacesFile_of_write {saved : Storage} (h : storage.write text content = .ok saved) :
    storage.ReplacesFile saved text content := by
  rcases write_eq_ok_iff.mp h with ⟨place, hlocate, hitem, rfl⟩
  have hkept := KeepsDirectories.put hitem (.file content)
  have hback : (storage.put place (.file content)).KeepsDirectories storage :=
    keepsDirectories_of_put hitem
  have hplace := locate_of_locateFile (hkept.locateFile hlocate)
  refine ⟨read_of_write h, ⟨place, hlocate, item?_put (names_ne_nil hitem), ?_⟩, ?_⟩
  · intro other hne
    exact item?_put_of_ne hne
  · intro other helsewhere found
    rw [hplace] at helsewhere
    rw [read_eq_ok_iff, read_eq_ok_iff]
    constructor
    · rintro ⟨there, hthere, hfound⟩
      have hne : there ≠ place := fun heq => helsewhere (heq ▸ hthere)
      rw [item?_put_of_ne hne] at hfound
      exact ⟨there, hback.locate hthere, hfound⟩
    · rintro ⟨there, hthere, hfound⟩
      have hafter := hkept.locate hthere
      have hne : there ≠ place := fun heq => helsewhere (heq ▸ hafter)
      exact ⟨there, hafter, by rw [item?_put_of_ne hne, hfound]⟩

end Elsewhere

end Storage
end MessageBoard
