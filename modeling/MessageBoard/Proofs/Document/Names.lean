import Mathlib.Data.Option.Basic
import Mathlib.Tactic.SplitIfs
import MessageBoard.Document.Reader

/-!
# Names in a document

Every table of a document gives each of its names one value, however its entries were written: under
a header, with dotted keys or in braces.  So the value of a name does not depend on where in the
table it is looked for.
-/

namespace MessageBoard
namespace Document

/-!
# Tables without repeated names
-/

def Fields.names (fields : Fields) : List String := fields.map (·.1.text)

/-- No table in a value has a name twice. -/
inductive Node.IsTidy : Node → Prop where
  | text (span : Span) (content : String) : IsTidy (.text span content)
  | integer (span : Span) (value : Int64) : IsTidy (.integer span value)
  | float (span : Span) (value : Binary64) : IsTidy (.float span value)
  | boolean (span : Span) (value : Bool) : IsTidy (.boolean span value)
  | moment (span : Span) : IsTidy (.moment span)
  | array (span : Span) {items : List Node} (hitems : ∀ item ∈ items, IsTidy item) :
      IsTidy (.array span items)
  | table (origin : Origin) {fields : Fields} (hnames : fields.names.Nodup)
      (hfields : ∀ field ∈ fields, IsTidy field.2) : IsTidy (.table origin fields)
  | tables {items : List Node} (hitems : ∀ item ∈ items, IsTidy item) : IsTidy (.tables items)

namespace Fields

structure IsTidy (fields : Fields) : Prop where
  nodup : fields.names.Nodup
  values : ∀ field ∈ fields, field.2.IsTidy

theorem isTidy_nil : IsTidy [] := ⟨List.nodup_nil, List.forall_mem_nil _⟩

theorem isTidy_cons {name : Name} {node : Node} {fields : Fields} :
    IsTidy ((name, node) :: fields) ↔
      name.text ∉ fields.names ∧ node.IsTidy ∧ fields.IsTidy := by
  constructor
  · intro h
    rcases List.nodup_cons.mp h.nodup with ⟨hname, hnodup⟩
    rcases List.forall_mem_cons.mp h.values with ⟨hnode, hvalues⟩
    exact ⟨hname, hnode, hnodup, hvalues⟩
  · intro h
    rcases h with ⟨hname, hnode, hfields⟩
    exact ⟨List.nodup_cons.mpr ⟨hname, hfields.nodup⟩,
      List.forall_mem_cons.mpr ⟨hnode, hfields.values⟩⟩

theorem IsTidy.table {fields : Fields} (h : fields.IsTidy) (origin : Origin) :
    (Node.table origin fields).IsTidy :=
  .table origin h.nodup h.values

theorem isTidy_of_table {fields : Fields} {origin : Origin}
    (h : (Node.table origin fields).IsTidy) : fields.IsTidy := by
  cases h with
  | table _ hnames hfields => exact ⟨hnames, hfields⟩

theorem isTidy_items {items : List Node} (h : (Node.tables items).IsTidy) :
    ∀ item ∈ items, item.IsTidy := by
  cases h with
  | tables hitems => exact hitems

theorem nodup_concat {names : List String} (h : names.Nodup) {name : String}
    (hname : name ∉ names) : (names ++ [name]).Nodup := by
  refine List.nodup_append.mpr ⟨h, List.pairwise_singleton _ _, ?_⟩
  intro other hother last hlast heq
  rw [List.mem_singleton.mp hlast] at heq
  exact hname (heq ▸ hother)

theorem names_concat (fields : Fields) (name : Name) (node : Node) :
    names (fields ++ [(name, node)]) = fields.names ++ [name.text] :=
  List.map_append

theorem IsTidy.concat {fields : Fields} (h : fields.IsTidy) {name : Name} {node : Node}
    (hname : name.text ∉ fields.names) (hnode : node.IsTidy) :
    IsTidy (fields ++ [(name, node)]) := by
  constructor
  · rw [names_concat]
    exact nodup_concat h.nodup hname
  · exact List.forall_mem_append.mpr ⟨h.values, List.forall_mem_singleton.mpr hnode⟩

/-!
# Looking for a name
-/

theorem get?_eq_none {fields : Fields} {name : String} (h : name ∉ fields.names) :
    fields.get? name = none := by
  induction fields with
  | nil => rfl
  | cons field fields ih =>
      rcases not_or.mp (mt List.mem_cons.mpr h) with ⟨hne, hrest⟩
      rw [get?, if_neg (Ne.symm hne), ih hrest]

theorem isTidy_get? {fields : Fields} (h : fields.IsTidy) {name : String} {node : Node}
    (hget : fields.get? name = some node) : node.IsTidy := by
  induction fields with
  | nil => cases hget
  | cons field fields ih =>
      rcases isTidy_cons.mp h with ⟨_, hnode, hfields⟩
      rw [get?] at hget
      split at hget
      · cases hget
        exact hnode
      · exact ih hfields hget

/-!
# Changing a field
-/

/-- A change that makes a tidy value of every tidy value, and of none. -/
def KeepsTidy (change : Option Node → Option Node) : Prop :=
  ∀ found node, (∀ old, found = some old → old.IsTidy) → change found = some node → node.IsTidy

theorem names_alter {name : Name} {change : Option Node → Option Node} {fields fields' : Fields}
    (h : alter name change fields = some fields') :
    fields'.names = fields.names ∨
      name.text ∉ fields.names ∧ fields'.names = fields.names ++ [name.text] := by
  induction fields generalizing fields' with
  | nil =>
      rw [alter_nil] at h
      rcases Option.map_eq_some_iff.mp h with ⟨node, -, rfl⟩
      exact Or.inr ⟨List.not_mem_nil, rfl⟩
  | cons field fields ih =>
      rcases field with ⟨n, node⟩
      rw [alter] at h
      split at h
      · rcases Option.bind_eq_some_iff.mp h with ⟨node', -, hfields⟩
        cases hfields
        exact Or.inl rfl
      · rename_i hne
        rcases Option.bind_eq_some_iff.mp h with ⟨rest, hrest, hfields⟩
        cases hfields
        rcases ih hrest with hsame | ⟨hnew, hadded⟩
        · exact Or.inl (congrArg (n.text :: ·) hsame)
        · refine Or.inr ⟨?_, congrArg (n.text :: ·) hadded⟩
          exact mt List.mem_cons.mp (not_or.mpr ⟨Ne.symm hne, hnew⟩)

theorem values_alter {name : Name} {change : Option Node → Option Node} {fields fields' : Fields}
    (hchange : KeepsTidy change) (hvalues : ∀ field ∈ fields, field.2.IsTidy)
    (h : alter name change fields = some fields') : ∀ field ∈ fields', field.2.IsTidy := by
  induction fields generalizing fields' with
  | nil =>
      rw [alter_nil] at h
      rcases Option.map_eq_some_iff.mp h with ⟨node, hnode, rfl⟩
      refine List.forall_mem_singleton.mpr (hchange none node ?_ hnode)
      intro old hold
      cases hold
  | cons field fields ih =>
      rcases field with ⟨n, node⟩
      rcases List.forall_mem_cons.mp hvalues with ⟨hnode, hrest⟩
      rw [alter] at h
      split at h
      · rcases Option.bind_eq_some_iff.mp h with ⟨node', hnode', hfields⟩
        cases hfields
        refine List.forall_mem_cons.mpr ⟨hchange (some node) node' ?_ hnode', hrest⟩
        intro old hold
        cases hold
        exact hnode
      · rcases Option.bind_eq_some_iff.mp h with ⟨rest, haltered, hfields⟩
        cases hfields
        exact List.forall_mem_cons.mpr ⟨hnode, ih hrest haltered⟩

theorem IsTidy.alter {name : Name} {change : Option Node → Option Node} {fields fields' : Fields}
    (h : fields.IsTidy) (hchange : KeepsTidy change)
    (halter : fields.alter name change = some fields') : fields'.IsTidy := by
  refine ⟨?_, values_alter hchange h.values halter⟩
  rcases names_alter halter with hsame | ⟨hnew, hadded⟩
  · rw [hsame]
    exact h.nodup
  · rw [hadded]
    exact nodup_concat h.nodup hnew

theorem IsTidy.define {name : Name} {node : Node} {fields fields' : Fields} (h : fields.IsTidy)
    (hnode : node.IsTidy) (hdefine : fields.define name node = some fields') :
    fields'.IsTidy := by
  unfold Fields.define at hdefine
  split at hdefine
  · cases hdefine
  · rename_i hany
    cases hdefine
    refine h.concat ?_ hnode
    intro hmem
    rcases List.mem_map.mp hmem with ⟨field, hfield, htext⟩
    exact hany (List.any_eq_true.mpr ⟨field, hfield, by simpa using htext⟩)

/-!
# Entries and headers

Both go down a path of names and make a change where it ends; what lies on the way is put back.
-/

theorem isTidy_dropLast_append {items : List Node} {node : Node} (h : (Node.tables items).IsTidy)
    (hnode : node.IsTidy) : (Node.tables (items.dropLast ++ [node])).IsTidy := by
  refine .tables (List.forall_mem_append.mpr ⟨?_, List.forall_mem_singleton.mpr hnode⟩)
  intro item hitem
  exact isTidy_items h item ((List.dropLast_sublist items).subset hitem)

theorem isTidy_getLast? {items : List Node} {origin : Origin} {inner : Fields}
    (h : (Node.tables items).IsTidy) (hlast : items.getLast? = some (.table origin inner)) :
    inner.IsTidy :=
  isTidy_of_table (isTidy_items h _ (List.mem_of_getLast? hlast))

theorem IsTidy.assign {name : Name} {node : Node} (hnode : node.IsTidy) {path : List Name}
    {fields fields' : Fields} (h : fields.IsTidy)
    (hassign : assign name node path fields = some fields') : fields'.IsTidy := by
  induction path generalizing fields fields' with
  | nil => exact h.define hnode hassign
  | cons step path ih =>
      rw [Fields.assign] at hassign
      refine h.alter ?_ hassign
      intro found node' hfound hchange
      dsimp only at hchange
      -- A step may find nothing, a table of dotted keys, one under a header or repeated tables;
      -- nothing else can be passed.
      split at hchange
      · rcases Option.map_eq_some_iff.mp hchange with ⟨inner, hinner, rfl⟩
        exact (ih isTidy_nil hinner).table _
      · rcases Option.map_eq_some_iff.mp hchange with ⟨inner, hinner, rfl⟩
        exact (ih (isTidy_of_table (hfound _ rfl)) hinner).table _
      · split at hchange
        · cases hchange
        · rcases Option.map_eq_some_iff.mp hchange with ⟨inner, hinner, rfl⟩
          exact (ih (isTidy_of_table (hfound _ rfl)) hinner).table _
      · split at hchange
        · cases hchange
        · split at hchange
          · rename_i hlast
            rcases Option.map_eq_some_iff.mp hchange with ⟨inner, hinner, rfl⟩
            have htables := hfound _ rfl
            exact isTidy_dropLast_append htables
              ((ih (isTidy_getLast? htables hlast) hinner).table _)
          · cases hchange
      · cases hchange

theorem IsTidy.enter {entries : List (Key × Node)} (hentries : ∀ entry ∈ entries, entry.2.IsTidy)
    {fields fields' : Fields} (h : fields.IsTidy) (henter : enter entries fields = some fields') :
    fields'.IsTidy := by
  unfold Fields.enter at henter
  induction entries generalizing fields with
  | nil =>
      cases henter
      exact h
  | cons entry entries ih =>
      rcases List.forall_mem_cons.mp hentries with ⟨hnode, hothers⟩
      rw [List.foldlM_cons] at henter
      rcases Option.bind_eq_some_iff.mp henter with ⟨middle, hmiddle, hrest⟩
      exact ih hothers (IsTidy.assign hnode h hmiddle) hrest

theorem IsTidy.within {change : Fields → Option Fields}
    (hchange : ∀ fields fields', fields.IsTidy → change fields = some fields' → fields'.IsTidy)
    {path : List Name} {fields fields' : Fields} (h : fields.IsTidy)
    (hwithin : within change path fields = some fields') : fields'.IsTidy := by
  induction path generalizing fields fields' with
  | nil => exact hchange fields fields' h hwithin
  | cons step path ih =>
      rw [Fields.within] at hwithin
      refine h.alter ?_ hwithin
      intro found node' hfound hnode'
      dsimp only at hnode'
      -- As for entries, but of tables only one in braces stands in the way.
      split at hnode'
      · rcases Option.map_eq_some_iff.mp hnode' with ⟨inner, hinner, rfl⟩
        exact (ih isTidy_nil hinner).table _
      · cases hnode'
      · rcases Option.map_eq_some_iff.mp hnode' with ⟨inner, hinner, rfl⟩
        exact (ih (isTidy_of_table (hfound _ rfl)) hinner).table _
      · split at hnode'
        · rename_i hlast
          rcases Option.map_eq_some_iff.mp hnode' with ⟨inner, hinner, rfl⟩
          have htables := hfound _ rfl
          exact isTidy_dropLast_append htables ((ih (isTidy_getLast? htables hlast) hinner).table _)
        · cases hnode'
      · cases hnode'

theorem IsTidy.extract {name : Name} {fields : Fields} (h : fields.IsTidy) :
    IsTidy (fields.extract name).2 ∧ name.text ∉ (fields.extract name).2.names ∧
      (∀ text ∈ (fields.extract name).2.names, text ∈ fields.names) ∧
      ∀ node, (fields.extract name).1 = some node → node.IsTidy := by
  induction fields with
  | nil =>
      refine ⟨isTidy_nil, List.not_mem_nil, fun _ htext => htext, ?_⟩
      intro node hnode
      cases hnode
  | cons field fields ih =>
      rcases field with ⟨n, node⟩
      rcases isTidy_cons.mp h with ⟨hname, hnode, hfields⟩
      rw [Fields.extract]
      split
      · rename_i hsame
        refine ⟨hfields, hsame ▸ hname, fun _ htext => List.mem_cons_of_mem _ htext, ?_⟩
        intro old hold
        cases hold
        exact hnode
      · rename_i hne
        rcases ih hfields with ⟨htidy, hnew, hsub, hfound⟩
        refine ⟨isTidy_cons.mpr ⟨mt (hsub n.text) hname, hnode, htidy⟩, ?_, ?_, hfound⟩
        · exact mt List.mem_cons.mp (not_or.mpr ⟨Ne.symm hne, hnew⟩)
        · exact List.cons_subset_cons n.text hsub

end Fields

namespace Section

def HasTidyValues (s : Section) : Prop := ∀ entry ∈ s.entries, entry.2.IsTidy

theorem isTidy_table {s : Section} (hs : s.HasTidyValues) {fields : Fields} (h : fields.IsTidy)
    {node : Node} (htable : s.table fields = some node) : node.IsTidy := by
  rcases Option.map_eq_some_iff.mp htable with ⟨inner, hinner, rfl⟩
  exact (Fields.IsTidy.enter hs h hinner).table _

theorem isTidy_addTo {s : Section} (hs : s.HasTidyValues) {parent parent' : Fields}
    (h : parent.IsTidy) (hadd : s.addTo parent = some parent') : parent'.IsTidy := by
  unfold addTo at hadd
  split at hadd
  · refine h.alter ?_ hadd
    intro found node hfound hchange
    dsimp only at hchange
    split at hchange
    · rcases Option.map_eq_some_iff.mp hchange with ⟨first, hfirst, rfl⟩
      exact .tables (List.forall_mem_singleton.mpr (isTidy_table hs Fields.isTidy_nil hfirst))
    · rcases Option.map_eq_some_iff.mp hchange with ⟨next, hnext, rfl⟩
      exact .tables (List.forall_mem_append.mpr ⟨Fields.isTidy_items (hfound _ rfl),
        List.forall_mem_singleton.mpr (isTidy_table hs Fields.isTidy_nil hnext)⟩)
    · cases hchange
  · rcases h.extract with ⟨hrest, hnew, -, hfound⟩
    split at hadd
    · rename_i hextract
      rcases Option.map_eq_some_iff.mp hadd with ⟨node, hnode, rfl⟩
      rw [hextract] at hrest hnew
      exact hrest.concat hnew (isTidy_table hs Fields.isTidy_nil hnode)
    · rename_i hextract
      rcases Option.map_eq_some_iff.mp hadd with ⟨node, hnode, rfl⟩
      rw [hextract] at hrest hnew hfound
      exact hrest.concat hnew (isTidy_table hs (Fields.isTidy_of_table (hfound _ rfl)) hnode)
    · cases hadd

end Section

theorem isTidy_outline {entries : List (Key × Node)} {sections : List Section} {root : Fields}
    (hentries : ∀ entry ∈ entries, entry.2.IsTidy) (hsections : ∀ s ∈ sections, s.HasTidyValues)
    (h : outline entries sections = some root) : root.IsTidy := by
  unfold outline at h
  rcases Option.bind_eq_some_iff.mp h with ⟨first, hfirst, hrest⟩
  have htidy : first.IsTidy := Fields.IsTidy.enter hentries Fields.isTidy_nil hfirst
  clear h hfirst
  induction sections generalizing first with
  | nil =>
      cases hrest
      exact htidy
  | cons s sections ih =>
      rcases List.forall_mem_cons.mp hsections with ⟨hs, hothers⟩
      rw [List.foldlM_cons] at hrest
      rcases Option.bind_eq_some_iff.mp hrest with ⟨next, hnext, hlater⟩
      have hnext' : next.IsTidy :=
        Fields.IsTidy.within (fun _ _ => Section.isTidy_addTo hs) htidy hnext
      exact ih hothers next hlater hnext'

/-!
# Reading values
-/

def ReadsTidy (reader : NodeReader) : Prop :=
  ∀ cs node rest, reader cs = some (node, rest) → node.IsTidy

theorem readsTidy_textNode? : ReadsTidy textNode? := by
  intro cs node rest h
  rcases Option.bind_eq_some_iff.mp h with ⟨⟨content, after⟩, -, ⟨⟩⟩
  exact .text _ _

theorem readsTidy_booleanNode? : ReadsTidy booleanNode? := by
  intro cs node rest h
  unfold booleanNode? at h
  split at h
  · cases h
    exact .boolean _ _
  · cases h
    exact .boolean _ _
  · cases h

theorem readsTidy_floatNode? : ReadsTidy floatNode? := by
  intro cs node rest h
  rcases Option.bind_eq_some_iff.mp h with ⟨⟨value, after⟩, -, ⟨⟩⟩
  exact .float _ _

theorem readsTidy_integerNode? : ReadsTidy integerNode? := by
  intro cs node rest h
  rcases Option.bind_eq_some_iff.mp h with ⟨⟨value, after⟩, -, ⟨⟩⟩
  exact .integer _ _

theorem readsTidy_momentNode? : ReadsTidy momentNode? := by
  intro cs node rest h
  rcases Option.bind_eq_some_iff.mp h with ⟨after, -, ⟨⟩⟩
  exact .moment _

theorem readsTidy_numberNode? : ReadsTidy numberNode? := by
  intro cs node rest h
  rcases (Option.orElse_eq_some _ _ _).mp h with h | ⟨-, h⟩
  · exact readsTidy_momentNode? cs node rest h
  · rcases (Option.orElse_eq_some _ _ _).mp h with h | ⟨-, h⟩
    · exact readsTidy_floatNode? cs node rest h
    · exact readsTidy_integerNode? cs node rest h

section

variable {item? : NodeReader} (hitem? : ReadsTidy item?)
include hitem?

theorem isTidy_of_items? {bound cs rest : List Char} {items : List Node}
    (h : items? item? bound cs = some (items, rest)) : ∀ item ∈ items, item.IsTidy := by
  induction bound generalizing cs items with
  | nil => cases h
  | cons b bound ih =>
      rw [items?] at h
      split at h
      · cases h
        exact List.forall_mem_nil _
      · rcases Option.bind_eq_some_iff.mp h with ⟨⟨first, after⟩, hfirst, hrest⟩
        have htidy := hitem? _ first after hfirst
        dsimp only at hrest
        split at hrest
        · rcases Option.bind_eq_some_iff.mp hrest with ⟨⟨others, end'⟩, hothers, ⟨⟩⟩
          exact List.forall_mem_cons.mpr ⟨htidy, ih hothers⟩
        · cases hrest
          exact List.forall_mem_singleton.mpr htidy
        · cases hrest

theorem isTidy_of_entry? {cs rest : List Char} {entry : Key × Node}
    (h : entry? item? cs = some (entry, rest)) : entry.2.IsTidy := by
  rcases Option.bind_eq_some_iff.mp h with ⟨⟨key, after⟩, -, hrest⟩
  dsimp only at hrest
  split at hrest
  · rcases Option.bind_eq_some_iff.mp hrest with ⟨⟨node, end'⟩, hnode, ⟨⟩⟩
    exact hitem? _ node _ hnode
  · cases hrest

theorem isTidy_of_entries? {bound cs rest : List Char} {entries : List (Key × Node)}
    (h : entries? item? bound cs = some (entries, rest)) : ∀ entry ∈ entries, entry.2.IsTidy := by
  induction bound generalizing cs entries with
  | nil => cases h
  | cons b bound ih =>
      rw [entries?] at h
      rcases Option.bind_eq_some_iff.mp h with ⟨⟨first, after⟩, hfirst, hrest⟩
      have htidy := isTidy_of_entry? hitem? hfirst
      dsimp only at hrest
      split at hrest
      · rcases Option.bind_eq_some_iff.mp hrest with ⟨⟨others, end'⟩, hothers, ⟨⟩⟩
        exact List.forall_mem_cons.mpr ⟨htidy, ih hothers⟩
      · cases hrest
        exact List.forall_mem_singleton.mpr htidy
      · cases hrest

theorem readsTidy_arrayNode? : ReadsTidy (arrayNode? item?) := by
  intro cs node rest h
  unfold arrayNode? at h
  split at h
  · rcases Option.bind_eq_some_iff.mp h with ⟨⟨items, after⟩, hitems, ⟨⟩⟩
    exact .array _ (isTidy_of_items? hitem? hitems)
  · cases h

theorem readsTidy_bracesNode? : ReadsTidy (bracesNode? item?) := by
  intro cs node rest h
  unfold bracesNode? at h
  dsimp only at h
  split at h
  · split at h
    · cases h
      exact Fields.isTidy_nil.table _
    · rcases Option.bind_eq_some_iff.mp h with ⟨⟨entries, after⟩, hentries, hrest⟩
      rcases Option.bind_eq_some_iff.mp hrest with ⟨fields, hfields, ⟨⟩⟩
      have htidy := isTidy_of_entries? hitem? hentries
      exact (Fields.IsTidy.enter htidy Fields.isTidy_nil hfields).table _
  · cases h

end

theorem readsTidy_nodeWithin? (levels : Nat) : ReadsTidy (nodeWithin? levels) := by
  induction levels with
  | zero =>
      intro cs node rest h
      unfold nodeWithin? at h
      split at h
      · cases h
      · split_ifs at h
        · exact readsTidy_textNode? _ node rest h
        · exact readsTidy_booleanNode? _ node rest h
        · exact readsTidy_floatNode? _ node rest h
        · exact readsTidy_numberNode? _ node rest h
  | succ levels ih =>
      intro cs node rest h
      unfold nodeWithin? at h
      split at h
      · cases h
      · split_ifs at h
        · exact readsTidy_textNode? _ node rest h
        · exact readsTidy_arrayNode? ih _ node rest h
        · exact readsTidy_bracesNode? ih _ node rest h
        · exact readsTidy_booleanNode? _ node rest h
        · exact readsTidy_floatNode? _ node rest h
        · exact readsTidy_numberNode? _ node rest h

/-!
# Reading documents
-/

def Line.IsTidy : Line → Prop
  | entry _ node => node.IsTidy
  | header _ _ _ => True

theorem isTidy_of_headerLine? {cs rest : List Char} {line : Line}
    (h : headerLine? cs = some (line, rest)) : line.IsTidy := by
  unfold headerLine? at h
  split at h
  · rcases Option.bind_eq_some_iff.mp h with ⟨⟨key, after⟩, -, hrest⟩
    dsimp only at hrest
    split at hrest
    · cases hrest
      trivial
    · cases hrest
  · rcases Option.bind_eq_some_iff.mp h with ⟨⟨key, after⟩, -, hrest⟩
    dsimp only at hrest
    split at hrest
    · cases hrest
      trivial
    · cases hrest
  · cases h

theorem isTidy_of_entryLine? {cs rest : List Char} {line : Line}
    (h : entryLine? cs = some (line, rest)) : line.IsTidy := by
  rcases Option.bind_eq_some_iff.mp h with ⟨⟨⟨key, node⟩, after⟩, hentry, ⟨⟩⟩
  exact isTidy_of_entry? (readsTidy_nodeWithin? nestingLimit) hentry

theorem isTidy_of_lines? {bound cs : List Char} {lines : List Line}
    (h : lines? bound cs = some lines) : ∀ line ∈ lines, line.IsTidy := by
  induction bound generalizing cs lines with
  | nil => cases h
  | cons b bound ih =>
      rw [lines?] at h
      split at h
      · cases h
        exact List.forall_mem_nil _
      · split at h
        · rcases Option.bind_eq_some_iff.mp h with ⟨after, -, hrest⟩
          exact ih hrest
        · -- A header and an entry are read in two ways; what follows either is read in one.
          have hmore : ∀ first after, Line.IsTidy first →
              (do
                let cs ← lineEnd? after
                let lines ← lines? bound cs
                some (first :: lines)) = some lines → ∀ line ∈ lines, line.IsTidy := by
            intro first after htidy hrest
            rcases Option.bind_eq_some_iff.mp hrest with ⟨next, -, hrest⟩
            rcases Option.bind_eq_some_iff.mp hrest with ⟨others, hothers, ⟨⟩⟩
            exact List.forall_mem_cons.mpr ⟨htidy, ih hothers⟩
          dsimp only at h
          split at h
          · rcases Option.bind_eq_some_iff.mp h with ⟨⟨first, after⟩, hfirst, hrest⟩
            exact hmore first after (isTidy_of_headerLine? hfirst) hrest
          · rcases Option.bind_eq_some_iff.mp h with ⟨⟨first, after⟩, hfirst, hrest⟩
            exact hmore first after (isTidy_of_entryLine? hfirst) hrest

theorem isTidy_divide {lines : List Line} (h : ∀ line ∈ lines, line.IsTidy) :
    (∀ entry ∈ (divide lines).1, entry.2.IsTidy) ∧ ∀ s ∈ (divide lines).2, s.HasTidyValues := by
  induction lines with
  | nil => exact ⟨List.forall_mem_nil _, List.forall_mem_nil _⟩
  | cons line lines ih =>
      rcases List.forall_mem_cons.mp h with ⟨hline, hlines⟩
      rcases ih hlines with ⟨hentries, hsections⟩
      cases line with
      | entry key node => exact ⟨List.forall_mem_cons.mpr ⟨hline, hentries⟩, hsections⟩
      | header repeated key span =>
          exact ⟨List.forall_mem_nil _, List.forall_mem_cons.mpr ⟨hentries, hsections⟩⟩

theorem isTidy_read? {text : List Char} {root : Fields} (h : read? text = some root) :
    root.IsTidy := by
  rcases Option.bind_eq_some_iff.mp h with ⟨lines, hlines, houtline⟩
  rcases isTidy_divide (isTidy_of_lines? hlines) with ⟨hentries, hsections⟩
  exact isTidy_outline hentries hsections houtline

end Document
end MessageBoard
