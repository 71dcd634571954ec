import MessageBoard.Proofs.Settings.Document
import MessageBoard.Proofs.Settings.Savable

/-!
# Saving and loading

Settings that were saved are loaded again as they were, and what was loaded can be saved again
without changing the file.  Saving comes to nothing only if the path cannot be written or the
welcome has too long a run of quotation marks.
-/

namespace MessageBoard
namespace Settings

theorem mapError_eq_ok_iff {ε ε' α : Type} {outcome : Except ε α} {f : ε → ε'} {a : α} :
    outcome.mapError f = .ok a ↔ outcome = .ok a := by
  cases outcome with
  | error fault =>
      constructor
      · intro h
        cases h
      · intro h
        cases h
  | ok a' =>
      constructor
      · intro h
        cases h
        rfl
      · intro h
        cases h
        rfl

theorem fromUTF8?_toUTF8 (text : String) : String.fromUTF8? text.toUTF8 = some text := by
  have hvalid : text.toUTF8.IsValidUTF8 := text.isValidUTF8
  unfold String.fromUTF8?
  rw [dif_pos hvalid]
  rfl

/-!
# Both ways
-/

section

variable {settings : Settings} {storage saved : Storage} {path : String}

theorem load_eq_ok_iff :
    load storage path = .ok settings ↔
      ∃ text, storage.readText path = .ok text ∧ decode text = .ok settings := by
  unfold load
  rw [bind_eq_ok_iff]
  simp only [mapError_eq_ok_iff]

theorem readText_of_write {text : String} (h : storage.write path text.toUTF8 = .ok saved) :
    saved.readText path = .ok text := by
  unfold Storage.readText
  refine bind_eq_ok_iff.mpr ⟨text.toUTF8, Storage.read_of_write h, ?_⟩
  rw [fromUTF8?_toUTF8]

theorem load_of_write (hsavable : settings.IsSavable)
    (h : storage.write path (String.ofList settings.document).toUTF8 = .ok saved) :
    load saved path = .ok settings :=
  load_eq_ok_iff.mpr ⟨_, readText_of_write h, decode_document hsavable⟩

theorem save?_of_countable (hsavable : settings.IsSavable)
    (hcountable : settings.HasCountableWelcome) (storage : Storage) (path : String) :
    settings.save? storage path =
      some ((storage.write path (String.ofList settings.document).toUTF8).mapError
        (Failure.ofCause ∘ .storage)) := by
  unfold save?
  rw [encode?_of_countable hsavable hcountable]
  rfl

theorem save?_eq_none_iff (hsavable : settings.IsSavable) :
    settings.save? storage path = none ↔ ¬ settings.HasCountableWelcome := by
  constructor
  · intro h hcountable
    rw [save?_of_countable hsavable hcountable] at h
    cases h
  · intro hcountable
    unfold save?
    rw [encode?_of_not_countable hsavable hcountable]
    rfl

theorem save?_eq_ok_iff (hsavable : settings.IsSavable) :
    settings.save? storage path = some (.ok saved) ↔
      settings.HasCountableWelcome ∧
        storage.write path (String.ofList settings.document).toUTF8 = .ok saved := by
  constructor
  · intro h
    have hcountable : settings.HasCountableWelcome := by
      rcases Classical.em settings.HasCountableWelcome with hcountable | hnot
      · exact hcountable
      · rw [(save?_eq_none_iff hsavable).mpr hnot] at h
        cases h
    rw [save?_of_countable hsavable hcountable] at h
    exact ⟨hcountable, mapError_eq_ok_iff.mp (Option.some.inj h)⟩
  · rintro ⟨hcountable, hwrite⟩
    rw [save?_of_countable hsavable hcountable, hwrite]
    rfl

theorem isSavable_of_save? (h : settings.save? storage path = some (.ok saved)) :
    settings.IsSavable := by
  rcases Classical.em settings.IsSavable with hsavable | hnot
  · exact hsavable
  · have hencode : settings.encode? = some (.error .capacityTooGreat) := if_neg hnot
    unfold save? at h
    rw [hencode] at h
    cases h

theorem load_of_save? (h : settings.save? storage path = some (.ok saved)) :
    load saved path = .ok settings :=
  load_of_write (isSavable_of_save? h) ((save?_eq_ok_iff (isSavable_of_save? h)).mp h).2

end

/-!
# Round trips

The work breaks off exactly at a welcome with too long a run of quotation marks.  What was loaded
from a saved file leaves the file as it is when it is saved again, and has the same bytes wherever
else it is saved.
-/

/-- What comes of saving settings to a path and loading them again. -/
structure RoundTrips (settings : Settings) (storage : Storage) (path : String) : Prop where
  breaksOff : settings.save? storage path = none ↔ ¬ settings.HasCountableWelcome
  saves : settings.HasCountableWelcome → storage.IsWritable path →
    ∃ saved, settings.save? storage path = some (.ok saved)
  loads : ∀ saved, settings.save? storage path = some (.ok saved) → load saved path = .ok settings
  savesAgain : ∀ saved loaded, settings.save? storage path = some (.ok saved) →
    load saved path = .ok loaded → loaded.save? saved path = some (.ok saved)
  sameBytes : ∀ saved loaded storage' path' saved',
    settings.save? storage path = some (.ok saved) → load saved path = .ok loaded →
    loaded.save? storage' path' = some (.ok saved') → saved'.read path' = saved.read path

theorem roundTrips_of_isSavable {settings : Settings} (hsavable : settings.IsSavable)
    (storage : Storage) (path : String) : settings.RoundTrips storage path := by
  have hloads : ∀ saved, settings.save? storage path = some (.ok saved) →
      load saved path = .ok settings := by
    intro saved hsave
    exact load_of_write hsavable ((save?_eq_ok_iff hsavable).mp hsave).2
  have hloaded : ∀ saved loaded, settings.save? storage path = some (.ok saved) →
      load saved path = .ok loaded → loaded = settings := by
    intro saved loaded hsave hload
    rw [hloads saved hsave] at hload
    exact (Except.ok.inj hload).symm
  constructor
  · exact save?_eq_none_iff hsavable
  · intro hcountable hwritable
    rcases (Storage.isWritable_iff _).mp hwritable with ⟨saved, hwrite⟩
    exact ⟨saved, (save?_eq_ok_iff hsavable).mpr ⟨hcountable, hwrite⟩⟩
  · exact hloads
  · intro saved loaded hsave hload
    rw [hloaded saved loaded hsave hload]
    rcases (save?_eq_ok_iff hsavable).mp hsave with ⟨hcountable, hwrite⟩
    refine (save?_eq_ok_iff hsavable).mpr ⟨hcountable, ?_⟩
    rw [Storage.write_of_write hwrite, hwrite]
  · intro saved loaded storage' path' saved' hsave hload hsave'
    rw [hloaded saved loaded hsave hload] at hsave'
    have hwrite := ((save?_eq_ok_iff hsavable).mp hsave).2
    have hwrite' := ((save?_eq_ok_iff hsavable).mp hsave').2
    rw [Storage.read_of_write hwrite, Storage.read_of_write hwrite']

theorem isSavable_load {storage : Storage} {path : String} {settings : Settings}
    (h : load storage path = .ok settings) : settings.IsSavable := by
  rcases load_eq_ok_iff.mp h with ⟨text, -, hdecode⟩
  exact isSavable_decode hdecode

/--
Settings that can be saved, and settings that were loaded from any file, are the same after any
round trip; those loaded from a file can always be saved but for a welcome with too long a run.
-/
theorem roundTrips (settings : Settings)
    (h : settings.IsSavable ∨ ∃ source origin, load source origin = .ok settings)
    (storage : Storage) (path : String) :
    settings.IsSavable ∧ settings.RoundTrips storage path := by
  have hsavable : settings.IsSavable := by
    rcases h with hsavable | ⟨source, origin, hload⟩
    · exact hsavable
    · exact isSavable_load hload
  exact ⟨hsavable, roundTrips_of_isSavable hsavable storage path⟩

theorem roundTrips_greeting :
    (⟨5, some "\"hi\"\r\n"⟩ : Settings).IsSavable ∧
      (⟨5, some "\"hi\"\r\n"⟩ : Settings).RoundTrips Storage.empty "studio.toml" :=
  roundTrips ⟨5, some "\"hi\"\r\n"⟩ (Or.inl (show (5 : UInt64) < savableLimit by decide))
    Storage.empty "studio.toml"

/-!
A run of more than 255 quotation marks is loaded, but what was loaded is not saved.
-/

theorem not_hasCountableRuns_replicate {n : Nat} (hn : Document.runLimit < n) :
    Document.hasCountableRuns (List.replicate n '"') = false := by
  have hrun : Document.longestRun '"' (List.replicate n '"') = 0 + n :=
    Document.longestRunAfter_replicate '"' 0 n
  have hlong : ¬ Document.longestRun '"' (List.replicate n '"') ≤ Document.runLimit := by
    omega
  simp [Document.hasCountableRuns, hlong]

/-- The marks alone, as many as can just not be counted. -/
def longRun : Settings := ⟨1000, some (String.ofList (List.replicate 256 '"'))⟩

theorem not_hasCountableWelcome_longRun : ¬ longRun.HasCountableWelcome := by
  intro h
  have hruns := h _ rfl
  rw [String.toList_ofList, not_hasCountableRuns_replicate (by decide)] at hruns
  exact Bool.noConfusion hruns

theorem longRun_loads_and_breaksOff :
    ∃ source, Storage.empty.write "a.toml" (String.ofList longRun.document).toUTF8 = .ok source ∧
      load source "a.toml" = .ok longRun ∧ longRun.save? source "b.toml" = none := by
  have hsavable : longRun.IsSavable := show (1000 : UInt64) < savableLimit by decide
  have hwritable : Storage.empty.IsWritable "a.toml" :=
    ⟨⟨.above 0, ["a.toml"]⟩, rfl, by simp [Storage.item?, Storage.empty]⟩
  rcases (Storage.isWritable_iff _).mp hwritable with ⟨source, hwrite⟩
  exact ⟨source, hwrite, load_of_write hsavable hwrite,
    (save?_eq_none_iff hsavable).mpr not_hasCountableWelcome_longRun⟩

end Settings
end MessageBoard
