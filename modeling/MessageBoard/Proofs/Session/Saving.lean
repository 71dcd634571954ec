import MessageBoard.Proofs.Settings.RoundTrip
import MessageBoard.Proofs.Storage.Refusal
import MessageBoard.Session

/-!
# Saving in a session

Saving makes the document first and opens the file after that, so settings that have no document
never reach the storage.  Either the file at the path is the document of the settings and all else
is as it was, or nothing has changed at all.
-/

namespace MessageBoard
namespace Session

/-!
# The four ways of a step that saves
-/

inductive SaveResult (session : Session) (path : String) (settings : Settings) :
    Outcome × Session → Prop where
  | tooGreat (hcapacity : ¬ settings.IsSavable) :
      SaveResult session path settings
        (.saved (.error (.ofCause (.writing .capacityTooGreat))), session)
  | uncountable (hsavable : settings.IsSavable) (hwelcome : ¬ settings.HasCountableWelcome) :
      SaveResult session path settings (.brokenOff, session)
  | refused {fault : Storage.Fault} (hsavable : settings.IsSavable)
      (hcountable : settings.HasCountableWelcome) (hrefuses : session.storage.Refuses path fault) :
      SaveResult session path settings (.saved (.error (.ofCause (.storage fault))), session)
  | saved {storage : Storage} (hsavable : settings.IsSavable)
      (hcountable : settings.HasCountableWelcome)
      (hwrite : session.storage.write path (String.ofList settings.document).toUTF8 = .ok storage) :
      SaveResult session path settings (.saved (.ok ()), { session with storage })

section Step

variable {session : Session} {path : String} {settings : Settings}

theorem step_save_of_none (h : settings.save? session.storage path = none) :
    session.step (.save path settings) = (.brokenOff, session) := by
  simp [step, h]

theorem step_save_of_some {attempt : Except Failure Storage}
    (h : settings.save? session.storage path = some attempt) :
    session.step (.save path settings) =
      (.saved (attempt.map fun _ => ()), session.keep attempt) := by
  simp [step, h]

theorem save?_of_not_isSavable (h : ¬ settings.IsSavable) (storage : Storage) :
    settings.save? storage path = some (.error (.ofCause (.writing .capacityTooGreat))) := by
  have hencode : settings.encode? = some (.error .capacityTooGreat) := if_neg h
  unfold Settings.save?
  rw [hencode]
  rfl

end Step

theorem saveResult_step (session : Session) (path : String) (settings : Settings) :
    SaveResult session path settings (session.step (.save path settings)) := by
  rcases Classical.em settings.IsSavable with hsavable | hcapacity
  · rcases Classical.em settings.HasCountableWelcome with hcountable | hwelcome
    · have hsave := Settings.save?_of_countable hsavable hcountable session.storage path
      rw [step_save_of_some hsave]
      cases hwrite : session.storage.write path (String.ofList settings.document).toUTF8 with
      | error fault => exact .refused hsavable hcountable (Storage.write_eq_error_iff.mp hwrite)
      | ok storage => exact .saved hsavable hcountable hwrite
    · rw [step_save_of_none ((Settings.save?_eq_none_iff hsavable).mpr hwelcome)]
      exact .uncountable hsavable hwelcome
  · rw [step_save_of_some (save?_of_not_isSavable hcapacity session.storage)]
    exact .tooGreat hcapacity

/-!
# What saving promises

The work breaks off exactly at a welcome with too long a run of quotation marks.  A capacity that is
too great is complained about before the path is looked at.  Without success every file is as it was
and no file is new; with success the new content depends on the settings alone.
-/

/-- What comes of saving settings to a path, whatever the storage holds. -/
structure SavesOrKeeps (session : Session) (path : String) (settings : Settings) : Prop where
  breaksOff_iff : (session.step (.save path settings)).1 = .brokenOff ↔
    settings.IsSavable ∧ ¬ settings.HasCountableWelcome
  fails_iff : settings.HasCountableWelcome →
    ((∃ failure, (session.step (.save path settings)).1 = .saved (.error failure)) ↔
      ¬ settings.IsSavable ∨ ∃ fault, session.storage.Refuses path fault)
  succeeds_iff : (session.step (.save path settings)).1 = .saved (.ok ()) ↔
    settings.IsSavable ∧ settings.HasCountableWelcome ∧
      ∀ fault, ¬ session.storage.Refuses path fault
  kind : ∀ failure, (session.step (.save path settings)).1 = .saved (.error failure) →
    failure.kind = .settings
  tooGreat : ¬ settings.IsSavable →
    (session.step (.save path settings)).1 =
      .saved (.error (.ofCause (.writing .capacityTooGreat)))
  refused : settings.IsSavable → settings.HasCountableWelcome →
    ∀ fault, session.storage.Refuses path fault →
      (session.step (.save path settings)).1 = .saved (.error (.ofCause (.storage fault)))
  unchanged : (session.step (.save path settings)).1 ≠ .saved (.ok ()) →
    (session.step (.save path settings)).2 = session
  replaces : (session.step (.save path settings)).1 = .saved (.ok ()) →
    ∃ text, settings.encode? = some (.ok text) ∧
      session.storage.ReplacesFile (session.step (.save path settings)).2.storage path text.toUTF8
  boards : (session.step (.save path settings)).2.boards = session.boards ∧
    (session.step (.save path settings)).2.handles = session.handles

namespace SaveResult

variable {session : Session} {path : String} {settings : Settings} {result : Outcome × Session}

theorem breaksOff_iff (h : SaveResult session path settings result) :
    result.1 = .brokenOff ↔ settings.IsSavable ∧ ¬ settings.HasCountableWelcome := by
  cases h with
  | tooGreat hcapacity => simp [hcapacity]
  | uncountable hsavable hwelcome => simp [hsavable, hwelcome]
  | refused hsavable hcountable hrefuses => simp [hcountable]
  | saved hsavable hcountable hwrite => simp [hcountable]

theorem fails_iff (h : SaveResult session path settings result)
    (hwelcome : settings.HasCountableWelcome) :
    (∃ failure, result.1 = .saved (.error failure)) ↔
      ¬ settings.IsSavable ∨ ∃ fault, session.storage.Refuses path fault := by
  cases h with
  | tooGreat hcapacity => simp [hcapacity]
  | uncountable hsavable hnot => exact absurd hwelcome hnot
  | refused hsavable hcountable hrefuses =>
      constructor
      · intro _
        exact Or.inr ⟨_, hrefuses⟩
      · intro _
        exact ⟨_, rfl⟩
  | saved hsavable hcountable hwrite =>
      constructor
      · rintro ⟨failure, hfailure⟩
        cases hfailure
      · rintro (hnot | ⟨fault, hrefuses⟩)
        · exact absurd hsavable hnot
        · exact absurd hrefuses (Storage.not_refuses_of_write hwrite fault)

theorem succeeds_iff (h : SaveResult session path settings result) :
    result.1 = .saved (.ok ()) ↔
      settings.IsSavable ∧ settings.HasCountableWelcome ∧
        ∀ fault, ¬ session.storage.Refuses path fault := by
  cases h with
  | tooGreat hcapacity => simp [hcapacity]
  | uncountable hsavable hwelcome => simp [hwelcome]
  | refused hsavable hcountable hrefuses =>
      constructor
      · intro hok
        cases hok
      · rintro ⟨-, -, hnone⟩
        exact absurd hrefuses (hnone _)
  | saved hsavable hcountable hwrite =>
      simp [hsavable, hcountable, Storage.not_refuses_of_write hwrite]

theorem kind (h : SaveResult session path settings result) {failure : Failure}
    (hfailure : result.1 = .saved (.error failure)) : failure.kind = .settings := by
  cases h with
  | tooGreat hcapacity =>
      cases hfailure
      rfl
  | uncountable hsavable hwelcome => cases hfailure
  | refused hsavable hcountable hrefuses =>
      cases hfailure
      rfl
  | saved hsavable hcountable hwrite => cases hfailure

theorem of_not_isSavable (h : SaveResult session path settings result)
    (hcapacity : ¬ settings.IsSavable) :
    result.1 = .saved (.error (.ofCause (.writing .capacityTooGreat))) := by
  cases h with
  | tooGreat _ => rfl
  | uncountable hsavable hwelcome => exact absurd hsavable hcapacity
  | refused hsavable hcountable hrefuses => exact absurd hsavable hcapacity
  | saved hsavable hcountable hwrite => exact absurd hsavable hcapacity

theorem of_refuses (h : SaveResult session path settings result) (hsavable : settings.IsSavable)
    (hcountable : settings.HasCountableWelcome) {fault : Storage.Fault}
    (hrefuses : session.storage.Refuses path fault) :
    result.1 = .saved (.error (.ofCause (.storage fault))) := by
  cases h with
  | tooGreat hcapacity => exact absurd hsavable hcapacity
  | uncountable _ hwelcome => exact absurd hcountable hwelcome
  | refused _ _ hfault => rw [Storage.refuses_unique hrefuses hfault]
  | saved _ _ hwrite => exact absurd hrefuses (Storage.not_refuses_of_write hwrite fault)

theorem unchanged (h : SaveResult session path settings result)
    (hfails : result.1 ≠ .saved (.ok ())) : result.2 = session := by
  cases h with
  | tooGreat hcapacity => rfl
  | uncountable hsavable hwelcome => rfl
  | refused hsavable hcountable hrefuses => rfl
  | saved hsavable hcountable hwrite => exact absurd rfl hfails

theorem replaces (h : SaveResult session path settings result)
    (hsucceeds : result.1 = .saved (.ok ())) :
    ∃ text, settings.encode? = some (.ok text) ∧
      session.storage.ReplacesFile result.2.storage path text.toUTF8 := by
  cases h with
  | tooGreat hcapacity => cases hsucceeds
  | uncountable hsavable hwelcome => cases hsucceeds
  | refused hsavable hcountable hrefuses => cases hsucceeds
  | saved hsavable hcountable hwrite =>
      exact ⟨_, Settings.encode?_of_countable hsavable hcountable,
        Storage.replacesFile_of_write hwrite⟩

theorem boards (h : SaveResult session path settings result) :
    result.2.boards = session.boards ∧ result.2.handles = session.handles := by
  cases h <;> exact ⟨rfl, rfl⟩

end SaveResult

theorem savesOrKeeps (session : Session) (path : String) (settings : Settings) :
    session.SavesOrKeeps path settings := by
  have hresult := saveResult_step session path settings
  constructor
  · exact hresult.breaksOff_iff
  · exact hresult.fails_iff
  · exact hresult.succeeds_iff
  · intro failure hfailure
    exact hresult.kind hfailure
  · exact hresult.of_not_isSavable
  · intro hsavable hcountable fault hrefuses
    exact hresult.of_refuses hsavable hcountable hrefuses
  · exact hresult.unchanged
  · exact hresult.replaces
  · exact hresult.boards

/-!
A welcome of 256 quotation marks is not saved although its capacity can be saved and its path can be
written, and no failure says so.
-/

theorem step_save_longRun :
    Settings.longRun.IsSavable ∧ (∀ fault, ¬ initial.storage.Refuses "a.toml" fault) ∧
      initial.step (.save "a.toml" Settings.longRun) = (.brokenOff, initial) := by
  have hsavable : Settings.longRun.IsSavable :=
    show (1000 : UInt64) < Settings.savableLimit by decide
  have hwritable : initial.storage.IsWritable "a.toml" :=
    ⟨⟨.above 0, ["a.toml"]⟩, rfl, by simp [initial, Storage.item?, Storage.empty]⟩
  rcases (Storage.isWritable_iff .empty).mp hwritable with ⟨saved, hwrite⟩
  refine ⟨hsavable, Storage.not_refuses_of_write hwrite, ?_⟩
  exact step_save_of_none
    ((Settings.save?_eq_none_iff hsavable).mpr Settings.not_hasCountableWelcome_longRun)

end Session
end MessageBoard
