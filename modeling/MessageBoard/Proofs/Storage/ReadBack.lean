import MessageBoard.Storage

/-!
# Reading back

What was written to a path is read back from it.  The path is followed again through a storage in
which only the file has changed, and a file is no directory that a path leads through.
-/

namespace MessageBoard

theorem bind_eq_ok_iff {ε α β : Type} {first : Except ε α} {next : α → Except ε β} {b : β} :
    first >>= next = .ok b ↔ ∃ a, first = .ok a ∧ next a = .ok b := by
  cases first with
  | error fault =>
      constructor
      · intro h
        cases h
      · rintro ⟨a, ⟨⟩, -⟩
  | ok a =>
      constructor
      · intro h
        exact ⟨a, rfl, h⟩
      · rintro ⟨_, ⟨⟩, h⟩
        exact h

namespace Storage

/-!
# Putting items
-/

section Put

variable {storage : Storage} {place other : Place} {item : Item}

theorem item?_put (hnames : place.names ≠ []) : (storage.put place item).item? place = some item := by
  unfold item?
  rw [if_neg hnames]
  exact List.lookup_cons_self

theorem lookup_elsewhere (hne : other ≠ place) (items : List (Place × Item)) :
    (items.filter (·.1 ≠ place)).lookup other = items.lookup other := by
  induction items with
  | nil => rfl
  | cons entry items ih =>
      rcases entry with ⟨key, found⟩
      by_cases hkey : key = place
      · have hother : (other == key) = false := by simpa [hkey] using hne
        rw [List.filter_cons_of_neg (by simpa using hkey), ih]
        simp only [List.lookup_cons, hother]
      · rw [List.filter_cons_of_pos (by simpa using hkey), List.lookup_cons, List.lookup_cons, ih]

theorem item?_put_of_ne (hne : other ≠ place) :
    (storage.put place item).item? other = storage.item? other := by
  have hother : (other == place) = false := by simpa using hne
  unfold item? put
  simp only [List.lookup_cons, hother, lookup_elsewhere hne storage.items]

theorem put_put (first second : Item) :
    (storage.put place first).put place second = storage.put place second := by
  simp [put]

end Put

/-!
# Following a path again

A path leads through directories alone, so it leads to the same place wherever those are kept.
-/

def KeepsDirectories (storage storage' : Storage) : Prop :=
  ∀ place, storage.item? place = some .directory → storage'.item? place = some .directory

namespace KeepsDirectories

variable {storage storage' : Storage} {place place' : Place}

theorem put (h : storage.item? place ≠ some .directory) (item : Item) :
    storage.KeepsDirectories (storage.put place item) := by
  intro other hother
  have hne : other ≠ place := by
    rintro rfl
    exact h hother
  rw [item?_put_of_ne hne]
  exact hother

theorem enter (h : storage.KeepsDirectories storage') (henter : storage.enter place = .ok ()) :
    storage'.enter place = .ok () := by
  have hdirectory : storage.item? place = some .directory := by
    unfold Storage.enter at henter
    split at henter
    · cases henter
    · cases henter
    · assumption
  unfold Storage.enter
  rw [h place hdirectory]

theorem step (h : storage.KeepsDirectories storage') {part : String}
    (hstep : storage.step place part = .ok place') : storage'.step place part = .ok place' := by
  unfold Storage.step at hstep ⊢
  rcases bind_eq_ok_iff.mp hstep with ⟨⟨⟩, henter, hrest⟩
  exact bind_eq_ok_iff.mpr ⟨(), h.enter henter, hrest⟩

theorem foldlM_step (h : storage.KeepsDirectories storage') {parts : List String}
    (hfollow : parts.foldlM storage.step place = .ok place') :
    parts.foldlM storage'.step place = .ok place' := by
  induction parts generalizing place with
  | nil => exact hfollow
  | cons part parts ih =>
      rw [List.foldlM_cons] at hfollow ⊢
      rcases bind_eq_ok_iff.mp hfollow with ⟨next, hstep, hrest⟩
      exact bind_eq_ok_iff.mpr ⟨next, h.step hstep, ih hrest⟩

end KeepsDirectories

/-!
# Files
-/

section Files

variable {storage storage' : Storage} {text : String} {place : Place}

theorem locateFile_eq_ok_iff :
    storage.locateFile text = .ok place ↔
      ∃ path before part, Path.ofText text = .ok path ∧ path.parts.getLast? = some part ∧
        path.forDirectory = false ∧
        storage.follow path.start path.parts.dropLast = .ok before ∧
        storage.step before part = .ok place := by
  unfold locateFile
  constructor
  · intro h
    rcases bind_eq_ok_iff.mp h with ⟨path, hpath, h⟩
    rcases bind_eq_ok_iff.mp h with ⟨before, hfollow, h⟩
    cases hlast : path.parts.getLast? with
    | none => simp [hlast] at h
    | some part =>
        rw [hlast] at h
        cases hfile : path.forDirectory with
        | false =>
            simp only [hfile, Bool.false_eq_true, if_false] at h
            exact ⟨path, before, part, hpath, hlast, hfile, hfollow, h⟩
        | true =>
            simp only [hfile, if_true] at h
            rcases bind_eq_ok_iff.mp h with ⟨-, -, h⟩
            cases h
  · rintro ⟨path, before, part, hpath, hlast, hfile, hfollow, hstep⟩
    refine bind_eq_ok_iff.mpr ⟨path, hpath, bind_eq_ok_iff.mpr ⟨before, hfollow, ?_⟩⟩
    simp only [hlast, hfile, Bool.false_eq_true, if_false]
    exact hstep

theorem KeepsDirectories.locateFile (h : storage.KeepsDirectories storage')
    (hlocate : storage.locateFile text = .ok place) : storage'.locateFile text = .ok place := by
  rcases locateFile_eq_ok_iff.mp hlocate with ⟨path, before, part, hpath, hlast, hfile, hfollow, hstep⟩
  exact locateFile_eq_ok_iff.mpr
    ⟨path, before, part, hpath, hlast, hfile, h.foldlM_step hfollow, h.step hstep⟩

theorem locate_of_locateFile (h : storage.locateFile text = .ok place) :
    storage.locate text = .ok place := by
  rcases locateFile_eq_ok_iff.mp h with ⟨path, before, part, hpath, hlast, hfile, hfollow, hstep⟩
  have hparts : path.parts = path.parts.dropLast ++ [part] := by
    rcases List.getLast?_eq_some_iff.mp hlast with ⟨earlier, hparts⟩
    rw [hparts, List.dropLast_concat]
  have hplace : storage.follow path.start path.parts = .ok place := by
    unfold follow
    rw [hparts, List.foldlM_append]
    refine bind_eq_ok_iff.mpr ⟨before, hfollow, ?_⟩
    rw [List.foldlM_cons]
    exact bind_eq_ok_iff.mpr ⟨place, hstep, rfl⟩
  unfold locate
  refine bind_eq_ok_iff.mpr ⟨path, hpath, bind_eq_ok_iff.mpr ⟨place, hplace, ?_⟩⟩
  rw [hfile]
  rfl

def IsWritable (storage : Storage) (text : String) : Prop :=
  ∃ place, storage.locateFile text = .ok place ∧ storage.item? place ≠ some .directory

theorem write_eq_ok_iff {content : ByteArray} :
    storage.write text content = .ok storage' ↔
      ∃ place, storage.locateFile text = .ok place ∧ storage.item? place ≠ some .directory ∧
        storage' = storage.put place (.file content) := by
  unfold write
  constructor
  · intro h
    rcases bind_eq_ok_iff.mp h with ⟨place, hplace, h⟩
    refine ⟨place, hplace, ?_⟩
    split at h
    · cases h
    · rename_i hitem
      cases h
      exact ⟨hitem, rfl⟩
  · rintro ⟨place, hplace, hitem, rfl⟩
    refine bind_eq_ok_iff.mpr ⟨place, hplace, ?_⟩
    split
    · rename_i hdirectory
      exact absurd hdirectory hitem
    · rfl

theorem isWritable_iff (content : ByteArray) :
    storage.IsWritable text ↔ ∃ storage', storage.write text content = .ok storage' := by
  constructor
  · rintro ⟨place, hplace, hitem⟩
    exact ⟨_, write_eq_ok_iff.mpr ⟨place, hplace, hitem, rfl⟩⟩
  · rintro ⟨storage', hwrite⟩
    rcases write_eq_ok_iff.mp hwrite with ⟨place, hplace, hitem, -⟩
    exact ⟨place, hplace, hitem⟩

theorem names_ne_nil (h : storage.item? place ≠ some .directory) : place.names ≠ [] := by
  intro hnames
  apply h
  unfold item?
  rw [if_pos hnames]

theorem read_of_write {content : ByteArray} (h : storage.write text content = .ok storage') :
    storage'.read text = .ok content := by
  rcases write_eq_ok_iff.mp h with ⟨place, hplace, hitem, rfl⟩
  have hkept := KeepsDirectories.put hitem (.file content)
  have hlocate := locate_of_locateFile (hkept.locateFile hplace)
  unfold read
  refine bind_eq_ok_iff.mpr ⟨place, hlocate, ?_⟩
  rw [item?_put (names_ne_nil hitem)]

theorem write_of_write {first : ByteArray} (h : storage.write text first = .ok storage')
    (second : ByteArray) : storage'.write text second = storage.write text second := by
  rcases write_eq_ok_iff.mp h with ⟨place, hplace, hitem, rfl⟩
  have hkept := KeepsDirectories.put hitem (.file first)
  have hitem' : (storage.put place (.file first)).item? place ≠ some .directory := by
    rw [item?_put (names_ne_nil hitem)]
    simp
  have hwrite : storage.write text second = .ok (storage.put place (.file second)) :=
    write_eq_ok_iff.mpr ⟨place, hplace, hitem, rfl⟩
  rw [hwrite, write_eq_ok_iff]
  exact ⟨place, hkept.locateFile hplace, hitem', (put_put _ _).symm⟩

end Files

end Storage
end MessageBoard
