import MessageBoard.Proofs.Document.Names
import MessageBoard.Proofs.Settings.RoundTrip

/-!
# Loading settings

What a file says about a board depends on two values of its document, those named `capacity` and
`welcome` in the table named `messenger`.  It does not matter how the table is written, in which
order its names come or what else the document holds.
-/

namespace MessageBoard
namespace Settings

open Document

/-!
# Values that fit

A value that is missing gives what stands in for it.
-/

def GivesCapacity (missing : UInt64) : Option Node → UInt64 → Prop
  | none, capacity => capacity = missing
  | some (.integer _ value), capacity => (capacity.toNat : Int) = value.toInt
  | some _, _ => False

def GivesWelcome (missing : Option String) : Option Node → Option String → Prop
  | none, welcome => welcome = missing
  | some (.text _ content), welcome => welcome = some content
  | some _, _ => False

/-- The settings that a table gives, with other settings for what is missing in it. -/
structure Gives (missing : Settings) (fields : Fields) (settings : Settings) : Prop where
  capacity : GivesCapacity missing.capacity (fields.get? "capacity") settings.capacity
  welcome : GivesWelcome missing.welcome (fields.get? "welcome") settings.welcome

def FitsCapacity (found : Option Node) : Prop :=
  found = none ∨ ∃ span value, found = some (.integer span value) ∧ 0 ≤ value.toInt

def FitsWelcome (found : Option Node) : Prop :=
  found = none ∨ ∃ span content, found = some (.text span content)

/-- Some settings are given exactly by the tables in which both values fit. -/
structure Fits (fields : Fields) : Prop where
  capacity : FitsCapacity (fields.get? "capacity")
  welcome : FitsWelcome (fields.get? "welcome")

theorem toNat_toUInt64 {value : Int64} (h : 0 ≤ value) :
    (value.toUInt64.toNat : Int) = value.toInt := by
  rw [Int64.toNat_toUInt64_of_le h]
  exact Int.toNat_of_nonneg (Int64.le_iff_toInt_le.mp h)

theorem exists_toNat_eq_toInt_iff {value : Int64} :
    (∃ capacity : UInt64, (capacity.toNat : Int) = value.toInt) ↔ 0 ≤ value.toInt := by
  constructor
  · intro h
    rcases h with ⟨capacity, hcapacity⟩
    rw [← hcapacity]
    exact Int.natCast_nonneg _
  · intro hnonneg
    exact ⟨value.toUInt64, toNat_toUInt64 (Int64.le_iff_toInt_le.mpr hnonneg)⟩

theorem exists_givesCapacity_iff {missing : UInt64} {found : Option Node} :
    (∃ capacity, GivesCapacity missing found capacity) ↔ FitsCapacity found := by
  rcases found with _ | node
  · exact ⟨fun _ => Or.inl rfl, fun _ => ⟨missing, rfl⟩⟩
  · cases node
    case integer span value =>
      constructor
      · intro h
        exact Or.inr ⟨span, value, rfl, exists_toNat_eq_toInt_iff.mp h⟩
      · intro h
        rcases h with ⟨⟨⟩⟩ | ⟨_, _, ⟨⟩, hnonneg⟩
        exact exists_toNat_eq_toInt_iff.mpr hnonneg
    all_goals
      constructor
      · intro h
        rcases h with ⟨capacity, ⟨⟩⟩
      · intro h
        rcases h with ⟨⟨⟩⟩ | ⟨_, _, ⟨⟩, _⟩

theorem exists_givesWelcome_iff {missing : Option String} {found : Option Node} :
    (∃ welcome, GivesWelcome missing found welcome) ↔ FitsWelcome found := by
  rcases found with _ | node
  · exact ⟨fun _ => Or.inl rfl, fun _ => ⟨missing, rfl⟩⟩
  · cases node
    case text span content =>
      exact ⟨fun _ => Or.inr ⟨span, content, rfl⟩, fun _ => ⟨some content, rfl⟩⟩
    all_goals
      constructor
      · intro h
        rcases h with ⟨welcome, ⟨⟩⟩
      · intro h
        rcases h with ⟨⟨⟩⟩ | ⟨_, _, ⟨⟩⟩

theorem exists_gives_iff {missing : Settings} {fields : Fields} :
    (∃ settings, Gives missing fields settings) ↔ Fits fields := by
  constructor
  · intro h
    rcases h with ⟨settings, hcapacity, hwelcome⟩
    exact ⟨exists_givesCapacity_iff.mp ⟨_, hcapacity⟩, exists_givesWelcome_iff.mp ⟨_, hwelcome⟩⟩
  · intro h
    rcases h with ⟨hcapacity, hwelcome⟩
    rcases exists_givesCapacity_iff.mpr hcapacity with ⟨capacity, hcapacity⟩
    rcases exists_givesWelcome_iff.mpr hwelcome with ⟨welcome, hwelcome⟩
    exact ⟨⟨capacity, welcome⟩, hcapacity, hwelcome⟩

/-!
# Single fields
-/

theorem decodeCapacity_eq_ok_iff {node : Node} {span : Span} {missing capacity : UInt64} :
    decodeCapacity node span = .ok capacity ↔ GivesCapacity missing (some node) capacity := by
  cases node
  case integer place value =>
    unfold decodeCapacity GivesCapacity
    dsimp only
    split
    · rename_i hnonneg
      have hvalue := toNat_toUInt64 hnonneg
      constructor
      · intro h
        cases h
        exact hvalue
      · intro hcapacity
        have hsame : value.toUInt64.toNat = capacity.toNat := by omega
        rw [UInt64.toNat_inj.mp hsame]
    · rename_i hneg
      constructor
      · intro h
        cases h
      · intro hcapacity
        refine absurd ?_ hneg
        rw [Int64.le_iff_toInt_le, ← hcapacity]
        exact Int.natCast_nonneg _
  all_goals
    constructor
    · intro h
      cases h
    · intro h
      cases h

theorem decodeWelcome_eq_ok_iff {node : Node} {span : Span} {missing : Option String}
    {welcome : String} :
    decodeWelcome node span = .ok welcome ↔ GivesWelcome missing (some node) (some welcome) := by
  cases node
  case text place content =>
    constructor
    · intro h
      cases h
      exact rfl
    · intro h
      cases h
      exact rfl
  all_goals
    constructor
    · intro h
      cases h
    · intro h
      cases h

theorem exists_eq_some_of_givesWelcome {missing welcome : Option String} {node : Node}
    (h : GivesWelcome missing (some node) welcome) : ∃ content, welcome = some content := by
  cases node
  case text span content => exact ⟨content, h⟩
  all_goals cases h

/-!
# Tables

A name that has one value is looked at once, wherever in the table it stands.
-/

theorem get?_cons_self {name : Name} {text : String} (h : name.text = text) (node : Node)
    (fields : Fields) : Fields.get? ((name, node) :: fields) text = some node :=
  if_pos h

theorem get?_cons_of_ne {name : Name} {text : String} (h : name.text ≠ text) (node : Node)
    (fields : Fields) : Fields.get? ((name, node) :: fields) text = fields.get? text :=
  if_neg h

theorem gives_cons_iff {α : Type} {given : α → Option Node → α → Prop}
    (hnone : ∀ missing a, given missing none a ↔ a = missing) {name : Name} {node : Node}
    {fields : Fields} (hname : name.text ∉ fields.names) (text : String) {missing a : α} :
    given missing (Fields.get? ((name, node) :: fields) text) a ↔
      ∃ middle, given missing (Fields.get? [(name, node)] text) middle ∧
        given middle (fields.get? text) a := by
  rcases Classical.em (name.text = text) with htext | hne
  · have hrest : fields.get? text = none := Fields.get?_eq_none (htext ▸ hname)
    rw [get?_cons_self htext, get?_cons_self htext, hrest]
    constructor
    · intro h
      exact ⟨a, h, (hnone a a).mpr rfl⟩
    · intro h
      rcases h with ⟨middle, hmiddle, hsame⟩
      rw [(hnone middle a).mp hsame]
      exact hmiddle
  · rw [get?_cons_of_ne hne, get?_cons_of_ne hne]
    constructor
    · intro h
      exact ⟨missing, (hnone missing missing).mpr rfl, h⟩
    · intro h
      rcases h with ⟨middle, hsame, hrest⟩
      rw [(hnone missing middle).mp hsame] at hrest
      exact hrest

theorem gives_cons {missing settings : Settings} {name : Name} {node : Node} {fields : Fields}
    (hname : name.text ∉ fields.names) :
    Gives missing ((name, node) :: fields) settings ↔
      ∃ middle, Gives missing [(name, node)] middle ∧ Gives middle fields settings := by
  have hcapacity := @gives_cons_iff _ GivesCapacity (fun _ _ => Iff.rfl) _ node _ hname "capacity"
    missing.capacity settings.capacity
  have hwelcome := @gives_cons_iff _ GivesWelcome (fun _ _ => Iff.rfl) _ node _ hname "welcome"
    missing.welcome settings.welcome
  constructor
  · intro h
    rcases h with ⟨h, h'⟩
    rcases hcapacity.mp h with ⟨capacity, hfirst, hrest⟩
    rcases hwelcome.mp h' with ⟨welcome, hfirst', hrest'⟩
    exact ⟨⟨capacity, welcome⟩, ⟨hfirst, hfirst'⟩, ⟨hrest, hrest'⟩⟩
  · intro h
    rcases h with ⟨middle, hfirst, hrest⟩
    exact ⟨hcapacity.mpr ⟨_, hfirst.capacity, hrest.capacity⟩,
      hwelcome.mpr ⟨_, hfirst.welcome, hrest.welcome⟩⟩

theorem gives_field_iff {missing settings : Settings} {name : Name} {node : Node} :
    Gives missing [(name, node)] settings ↔
      GivesCapacity missing.capacity (if name.text = "capacity" then some node else none)
          settings.capacity ∧
        GivesWelcome missing.welcome (if name.text = "welcome" then some node else none)
          settings.welcome :=
  ⟨fun h => ⟨h.capacity, h.welcome⟩, fun h => ⟨h.1, h.2⟩⟩

theorem decodeField_eq_ok_iff {missing settings : Settings} {name : Name} {node : Node} :
    missing.decodeField name node = .ok settings ↔ Gives missing [(name, node)] settings := by
  rcases settings with ⟨capacity, welcome⟩
  rw [gives_field_iff]
  unfold decodeField
  dsimp only
  split
  · rename_i hcapacity
    have hwelcome : name.text ≠ "welcome" := by
      rw [hcapacity]
      decide
    rw [bind_eq_ok_iff, if_neg hwelcome]
    constructor
    · intro h
      rcases h with ⟨_, hdecode, ⟨⟩⟩
      exact ⟨decodeCapacity_eq_ok_iff.mp hdecode, rfl⟩
    · intro h
      rcases h with ⟨hgiven, ⟨⟩⟩
      exact ⟨capacity, decodeCapacity_eq_ok_iff.mpr hgiven, rfl⟩
  · split
    · rw [bind_eq_ok_iff]
      constructor
      · intro h
        rcases h with ⟨_, hdecode, ⟨⟩⟩
        exact ⟨rfl, decodeWelcome_eq_ok_iff.mp hdecode⟩
      · intro h
        rcases h with ⟨⟨⟩, hgiven⟩
        rcases exists_eq_some_of_givesWelcome hgiven with ⟨content, ⟨⟩⟩
        exact ⟨content, decodeWelcome_eq_ok_iff.mpr hgiven, rfl⟩
    · constructor
      · intro h
        cases h
        exact ⟨rfl, rfl⟩
      · intro h
        rcases h with ⟨⟨⟩, ⟨⟩⟩
        rfl

theorem foldlM_decodeField_eq_ok_iff {fields : Fields} (hnodup : fields.names.Nodup)
    {missing settings : Settings} :
    fields.foldlM (fun settings (name, node) => settings.decodeField name node) missing =
      .ok settings ↔ Gives missing fields settings := by
  induction fields generalizing missing with
  | nil =>
      constructor
      · intro h
        cases h
        exact ⟨rfl, rfl⟩
      · intro h
        rcases h with ⟨hcapacity, hwelcome⟩
        rcases settings with ⟨capacity, welcome⟩
        cases hcapacity
        cases hwelcome
        rfl
  | cons field fields ih =>
      rcases field with ⟨name, node⟩
      rcases List.nodup_cons.mp hnodup with ⟨hname, hrest⟩
      rw [List.foldlM_cons, bind_eq_ok_iff, gives_cons hname]
      simp only [decodeField_eq_ok_iff, ih hrest]

theorem decodeFields_eq_ok_iff {fields : Fields} (hnodup : fields.names.Nodup)
    {settings : Settings} : decodeFields fields = .ok settings ↔ Gives default fields settings :=
  foldlM_decodeField_eq_ok_iff hnodup

/-!
# Whole documents
-/

def decodeEntry (settings : Settings) : Name × Node → Except Complaint Settings
  | (name, node) => if name.text = "messenger" then decodeNode name node else .ok settings

theorem decodeRoot_eq (root : Fields) : decodeRoot root = root.foldlM decodeEntry default := rfl

theorem foldlM_decodeEntry_of_absent {root : Fields} (h : root.get? "messenger" = none)
    (start : Settings) : root.foldlM decodeEntry start = .ok start := by
  induction root with
  | nil => rfl
  | cons field root ih =>
      rcases field with ⟨name, node⟩
      have hne : name.text ≠ "messenger" := by
        intro hname
        rw [get?_cons_self hname] at h
        cases h
      rw [get?_cons_of_ne hne] at h
      rw [List.foldlM_cons, decodeEntry, if_neg hne]
      exact ih h

theorem foldlM_decodeEntry_of_present {root : Fields} (hnodup : root.names.Nodup) {node : Node}
    (h : root.get? "messenger" = some node) (start : Settings) :
    ∃ name, root.foldlM decodeEntry start = decodeNode name node := by
  induction root with
  | nil => cases h
  | cons field root ih =>
      rcases field with ⟨name, found⟩
      rcases List.nodup_cons.mp hnodup with ⟨hname, hrest⟩
      rw [List.foldlM_cons, decodeEntry]
      split
      · rename_i htext
        rw [get?_cons_self htext] at h
        cases h
        have habsent : Fields.get? root "messenger" = none := Fields.get?_eq_none (htext ▸ hname)
        refine ⟨name, ?_⟩
        simp only [foldlM_decodeEntry_of_absent habsent]
        exact bind_pure _
      · rename_i hne
        rw [get?_cons_of_ne hne] at h
        exact ih hrest h

/-- The table of settings in a document; one that is missing counts as empty. -/
inductive HasTable (root : Fields) : Fields → Prop where
  | absent (h : root.get? "messenger" = none) : HasTable root []
  | present {origin : Origin} {fields : Fields}
      (h : root.get? "messenger" = some (.table origin fields)) : HasTable root fields

theorem decodeRoot_eq_ok_iff {root fields : Fields} (hroot : root.IsTidy)
    (htable : HasTable root fields) {settings : Settings} :
    decodeRoot root = .ok settings ↔ Gives default fields settings := by
  rw [decodeRoot_eq]
  cases htable with
  | absent h =>
      rw [foldlM_decodeEntry_of_absent h]
      exact @decodeFields_eq_ok_iff [] List.nodup_nil settings
  | present h =>
      have hfields := Fields.isTidy_of_table (Fields.isTidy_get? hroot h)
      rcases foldlM_decodeEntry_of_present hroot.nodup h default with ⟨name, hdecode⟩
      rw [hdecode]
      exact decodeFields_eq_ok_iff hfields.nodup

def IsSingle : Node → Prop
  | .text _ _ => True
  | .integer _ _ => True
  | .float _ _ => True
  | .boolean _ _ => True
  | _ => False

theorem decodeNode_of_isSingle {node : Node} (h : IsSingle node) (name : Name)
    (settings : Settings) : decodeNode name node ≠ .ok settings := by
  intro hdecode
  cases node with
  | text span words => cases hdecode
  | integer span value => cases hdecode
  | float span value => cases hdecode
  | boolean span value => cases hdecode
  | moment span => exact h
  | array span items => exact h
  | table origin fields => exact h
  | tables items => exact h

theorem decodeRoot_of_isSingle {root : Fields} (hroot : root.IsTidy) {node : Node}
    (h : root.get? "messenger" = some node) (hsingle : IsSingle node) (settings : Settings) :
    decodeRoot root ≠ .ok settings := by
  rcases foldlM_decodeEntry_of_present hroot.nodup h default with ⟨name, hdecode⟩
  rw [decodeRoot_eq, hdecode]
  exact decodeNode_of_isSingle hsingle name settings

/-!
# Files
-/

theorem kind_of_mapError {ε α : Type} {outcome : Except ε α} {cause : ε → Failure.Cause}
    (hcause : ∀ fault, (cause fault).kind = .settings) {failure : Failure}
    (h : outcome.mapError (Failure.ofCause ∘ cause) = .error failure) :
    failure.kind = .settings := by
  cases outcome with
  | error fault =>
      cases h
      exact hcause fault
  | ok value => cases h

theorem kind_of_load {storage : Storage} {path : String} {failure : Failure}
    (h : load storage path = .error failure) : failure.kind = .settings := by
  unfold load at h
  cases hread : (storage.readText path).mapError (Failure.ofCause ∘ .storage) with
  | error fault =>
      rw [hread] at h
      cases h
      exact kind_of_mapError (fun _ => rfl) hread
  | ok text =>
      rw [hread] at h
      exact kind_of_mapError (fun _ => rfl) h

section

variable {storage : Storage} {path text : String} {root : Fields}
  (htext : storage.readText path = .ok text) (hroot : read? text.toList = some root)
include htext hroot

theorem load_eq_ok_iff_decodeRoot {settings : Settings} :
    load storage path = .ok settings ↔ decodeRoot root = .ok settings := by
  rw [load_eq_ok_iff]
  constructor
  · intro h
    rcases h with ⟨text', htext', hdecode⟩
    rw [htext] at htext'
    cases htext'
    unfold decode at hdecode
    rw [hroot] at hdecode
    dsimp only at hdecode
    split at hdecode
    · rename_i hok
      cases hdecode
      exact hok
    · cases hdecode
  · intro hdecode
    refine ⟨text, htext, ?_⟩
    unfold decode
    rw [hroot]
    dsimp only
    rw [hdecode]

theorem load_eq_ok_iff_gives {fields : Fields} (htable : HasTable root fields)
    {settings : Settings} :
    load storage path = .ok settings ↔ Gives ⟨1000, none⟩ fields settings :=
  (load_eq_ok_iff_decodeRoot htext hroot).trans (decodeRoot_eq_ok_iff (isTidy_read? hroot) htable)

end

theorem exists_failure_of_load {storage : Storage} {path : String}
    (h : ∀ settings, load storage path ≠ .ok settings) :
    ∃ failure, load storage path = .error failure ∧ failure.kind = .settings := by
  cases hload : load storage path with
  | error failure => exact ⟨failure, rfl, kind_of_load hload⟩
  | ok settings => exact absurd hload (h settings)

/-!
# What a file's other contents do not change
-/

/-- A value as far as the settings of a board are told by it. -/
inductive Content where
  | missing
  | number (value : Int64)
  | words (text : String)
  | other

def content : Option Node → Content
  | none => .missing
  | some (.integer _ value) => .number value
  | some (.text _ words) => .words words
  | some _ => .other

theorem givesCapacity_iff {missing capacity : UInt64} {found : Option Node} :
    GivesCapacity missing found capacity ↔
      (content found = .missing ∧ capacity = missing) ∨
        ∃ value, content found = .number value ∧ (capacity.toNat : Int) = value.toInt := by
  rcases found with _ | node
  · simp [GivesCapacity, content]
  · cases node <;> simp [GivesCapacity, content]

theorem givesWelcome_iff {missing welcome : Option String} {found : Option Node} :
    GivesWelcome missing found welcome ↔
      (content found = .missing ∧ welcome = missing) ∨
        ∃ words, content found = .words words ∧ welcome = some words := by
  rcases found with _ | node
  · simp [GivesWelcome, content]
  · cases node <;> simp [GivesWelcome, content]

theorem gives_congr {fields fields' : Fields}
    (hcapacity : content (fields.get? "capacity") = content (fields'.get? "capacity"))
    (hwelcome : content (fields.get? "welcome") = content (fields'.get? "welcome"))
    {missing settings : Settings} :
    Gives missing fields settings ↔ Gives missing fields' settings := by
  constructor
  · intro h
    rcases h with ⟨hc, hw⟩
    rw [givesCapacity_iff, hcapacity, ← givesCapacity_iff] at hc
    rw [givesWelcome_iff, hwelcome, ← givesWelcome_iff] at hw
    exact ⟨hc, hw⟩
  · intro h
    rcases h with ⟨hc, hw⟩
    rw [givesCapacity_iff, ← hcapacity, ← givesCapacity_iff] at hc
    rw [givesWelcome_iff, ← hwelcome, ← givesWelcome_iff] at hw
    exact ⟨hc, hw⟩

/--
What comes of loading settings from a file with a document.  Settings are loaded if and only if both
values of their table fit, and a missing one stands for a thousand entries or no welcome.  Another
document with the same two values is loaded alike, whatever else is in either.
-/
structure LoadsDocument (storage : Storage) (path : String) (root : Fields) : Prop where
  accepts : ∀ fields, HasTable root fields →
    ((∃ settings, load storage path = .ok settings) ↔ Fits fields)
  gives : ∀ fields settings, HasTable root fields → load storage path = .ok settings →
    Gives ⟨1000, none⟩ fields settings
  othersIgnored : ∀ fields storage' path' text' root' fields', HasTable root fields →
    storage'.readText path' = .ok text' → read? text'.toList = some root' →
    HasTable root' fields' →
    content (fields.get? "capacity") = content (fields'.get? "capacity") →
    content (fields.get? "welcome") = content (fields'.get? "welcome") →
    ∀ settings, load storage path = .ok settings ↔ load storage' path' = .ok settings
  refuses : ∀ fields, HasTable root fields → ¬ Fits fields →
    ∃ failure, load storage path = .error failure ∧ failure.kind = .settings
  refusesSingle : ∀ node, root.get? "messenger" = some node → IsSingle node →
    ∃ failure, load storage path = .error failure ∧ failure.kind = .settings

theorem loadsDocument {storage : Storage} {path text : String} {root : Fields}
    (htext : storage.readText path = .ok text) (hroot : read? text.toList = some root) :
    LoadsDocument storage path root := by
  have haccepts : ∀ fields, HasTable root fields →
      ((∃ settings, load storage path = .ok settings) ↔ Fits fields) := by
    intro fields htable
    simp only [load_eq_ok_iff_gives htext hroot htable]
    exact exists_gives_iff
  constructor
  · exact haccepts
  · intro fields settings htable hload
    exact (load_eq_ok_iff_gives htext hroot htable).mp hload
  · intro fields storage' path' text' root' fields' htable htext' hroot' htable' hcapacity hwelcome
      settings
    rw [load_eq_ok_iff_gives htext hroot htable, load_eq_ok_iff_gives htext' hroot' htable']
    exact gives_congr hcapacity hwelcome
  · intro fields htable hfits
    refine exists_failure_of_load ?_
    intro settings hload
    exact hfits ((haccepts fields htable).mp ⟨settings, hload⟩)
  · intro node hnode hsingle
    refine exists_failure_of_load ?_
    intro settings hload
    exact decodeRoot_of_isSingle (isTidy_read? hroot) hnode hsingle settings
      ((load_eq_ok_iff_decodeRoot htext hroot).mp hload)

/-!
A table in braces, out of order and among other names, in a text that a byte order mark begins.
-/

def crowdedText : List Char :=
  ("\ufefftitle = 'x'\nmessenger = \x7bwelcome = \"hi\", limits = [1, \x7b\x7d], capacity = 3\x7d\n"
    ++ "[other]\ncapacity = -1\n").toList

theorem decode_crowdedText :
    (read? crowdedText).map (fun root => (decodeRoot root).toOption) = some (some ⟨3, some "hi"⟩) := by
  decide +kernel

/-- The same table in dotted keys, under quotation marks and between other names. -/
example :
    (read? "a = 1\nmessenger.'capacity' = 3\nmessenger.\"welcome\" = 'hi'\nz = []\n".toList).map
      (fun root => (decodeRoot root).toOption) = some (some ⟨3, some "hi"⟩) := by
  decide +kernel

theorem loadsDocument_crowdedText :
    ∃ storage root, storage.readText "a.toml" = .ok (String.ofList crowdedText) ∧
      read? (String.ofList crowdedText).toList = some root ∧
      LoadsDocument storage "a.toml" root ∧
      load storage "a.toml" = .ok ⟨3, some "hi"⟩ := by
  have hwritable : Storage.empty.IsWritable "a.toml" :=
    ⟨⟨.above 0, ["a.toml"]⟩, rfl, by simp [Storage.item?, Storage.empty]⟩
  rcases (Storage.isWritable_iff (String.ofList crowdedText).toUTF8).mp hwritable with
    ⟨storage, hwrite⟩
  rcases Option.map_eq_some_iff.mp decode_crowdedText with ⟨root, hroot, hdecode⟩
  have htext := readText_of_write hwrite
  rw [← @String.toList_ofList crowdedText] at hroot
  refine ⟨storage, root, htext, hroot, loadsDocument htext hroot, ?_⟩
  rw [load_eq_ok_iff_decodeRoot htext hroot]
  cases hok : decodeRoot root with
  | error complaint =>
      rw [hok] at hdecode
      cases hdecode
  | ok settings =>
      rw [hok] at hdecode
      cases hdecode
      rfl

end Settings
end MessageBoard
