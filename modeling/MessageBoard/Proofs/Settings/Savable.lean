import MessageBoard.Settings.File
import MessageBoard.Proofs.Storage.ReadBack

/-!
# Capacities of loaded settings

A capacity is read from a whole number of 64 bits with a sign, so settings that were loaded have one
of the capacities that can be saved.
-/

namespace MessageBoard
namespace Settings

open Document

def IsSavable (settings : Settings) : Prop := settings.capacity < savableLimit

theorem foldlM_ok_induction {ε α β : Type} {P : α → Prop} {next : α → β → Except ε α}
    (hnext : ∀ {a b a'}, P a → next a b = .ok a' → P a') {bs : List β} {a a' : α} (ha : P a)
    (h : bs.foldlM next a = .ok a') : P a' := by
  induction bs generalizing a with
  | nil =>
      cases h
      exact ha
  | cons b bs ih =>
      rw [List.foldlM_cons] at h
      rcases bind_eq_ok_iff.mp h with ⟨middle, hmiddle, hrest⟩
      exact ih (hnext ha hmiddle) hrest

theorem isSavable_default : default.IsSavable := by
  show defaultCapacity < savableLimit
  decide

/-!
# Single values
-/

theorem decodeCapacity_lt {node : Node} {span : Span} {capacity : UInt64}
    (h : decodeCapacity node span = .ok capacity) : capacity < savableLimit := by
  unfold decodeCapacity at h
  split at h
  · rename_i value
    split at h
    · rename_i hnonneg
      cases h
      show value.toUInt64.toNat < 0x8000000000000000
      rw [Int64.toNat_toUInt64_of_le hnonneg]
      exact value.toNatClampNeg_lt
    · cases h
  · cases h

theorem isSavable_decodeField {settings settings' : Settings} {name : Name} {node : Node}
    (hsavable : settings.IsSavable) (h : settings.decodeField name node = .ok settings') :
    settings'.IsSavable := by
  unfold decodeField at h
  dsimp only at h
  split at h
  · rcases bind_eq_ok_iff.mp h with ⟨capacity, hcapacity, ⟨⟩⟩
    exact decodeCapacity_lt hcapacity
  · split at h
    · rcases bind_eq_ok_iff.mp h with ⟨welcome, -, ⟨⟩⟩
      exact hsavable
    · cases h
      exact hsavable

theorem isSavable_decodeFields {fields : Fields} {settings : Settings}
    (h : decodeFields fields = .ok settings) : settings.IsSavable :=
  foldlM_ok_induction isSavable_decodeField isSavable_default h

theorem isSavable_decodeItems {span : Span} {items : List Node} {settings : Settings}
    (h : decodeItems span items = .ok settings) : settings.IsSavable := by
  unfold decodeItems at h
  dsimp only at h
  split at h
  · rcases bind_eq_ok_iff.mp h with ⟨capacity, ⟨⟩, hrest⟩
    split at hrest <;> rcases bind_eq_ok_iff.mp hrest with ⟨welcome, -, ⟨⟩⟩ <;>
      exact isSavable_default
  · rcases bind_eq_ok_iff.mp h with ⟨capacity, hcapacity, hrest⟩
    split at hrest <;> rcases bind_eq_ok_iff.mp hrest with ⟨welcome, -, ⟨⟩⟩ <;>
      exact decodeCapacity_lt hcapacity

theorem isSavable_decodeNode {name : Name} {node : Node} {settings : Settings}
    (h : decodeNode name node = .ok settings) : settings.IsSavable := by
  unfold decodeNode at h
  dsimp only at h
  split at h
  · exact isSavable_decodeFields h
  · exact isSavable_decodeItems h
  · exact isSavable_decodeItems h
  · cases h
    exact isSavable_default
  · cases h

/-!
# Whole documents
-/

theorem isSavable_decodeRoot {root : Fields} {settings : Settings}
    (h : decodeRoot root = .ok settings) : settings.IsSavable := by
  apply foldlM_ok_induction _ isSavable_default h
  intro settings entry settings' hsavable hstep
  dsimp only at hstep
  split at hstep
  · exact isSavable_decodeNode hstep
  · cases hstep
    exact hsavable

theorem isSavable_decode {text : String} {settings : Settings}
    (h : decode text = .ok settings) : settings.IsSavable := by
  unfold decode at h
  split at h
  · cases h
  · split at h
    · cases h
      apply isSavable_decodeRoot
      assumption
    · cases h

end Settings
end MessageBoard
