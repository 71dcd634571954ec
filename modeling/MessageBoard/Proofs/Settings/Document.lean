import MessageBoard.Settings.Decoding
import MessageBoard.Settings.Encoding
import MessageBoard.Proofs.Document.Decimal
import MessageBoard.Proofs.Document.Lines
import MessageBoard.Proofs.Document.PrintedText

/-!
# Documents of settings

The document of settings has one table, with the capacity and the welcome if there is one.  Read
again it gives the same settings; this does not depend on the runs of quotation marks in the
welcome, which only decide whether the document is made.
-/

namespace MessageBoard
namespace Settings

open Document

/-!
# The document
-/

/-- The line of a welcome, whatever its runs. -/
def welcomeLine : Option String → List Char
  | none => []
  | some welcome => "welcome = ".toList ++ printText welcome.toList ++ ['\n']

def document (settings : Settings) : List Char :=
  headerLine ++ capacityLine settings.capacity ++ welcomeLine settings.welcome

def HasCountableWelcome (settings : Settings) : Prop :=
  ∀ welcome, settings.welcome = some welcome → hasCountableRuns welcome.toList = true

theorem printText?_of_countable {cs : List Char} (h : hasCountableRuns cs = true) :
    printText? cs = some (printText cs) :=
  if_pos h

theorem welcomeLine?_of_countable {settings : Settings} (h : settings.HasCountableWelcome) :
    welcomeLine? settings.welcome = some (welcomeLine settings.welcome) := by
  cases hwelcome : settings.welcome with
  | none => rfl
  | some welcome =>
      rw [welcomeLine?, printText?_of_countable (h welcome hwelcome)]
      rfl

theorem encode?_of_countable {settings : Settings} (hcapacity : settings.capacity < savableLimit)
    (h : settings.HasCountableWelcome) :
    settings.encode? = some (.ok (String.ofList settings.document)) := by
  unfold encode?
  rw [if_pos hcapacity, welcomeLine?_of_countable h]
  rfl

theorem encode?_of_not_countable {settings : Settings}
    (hcapacity : settings.capacity < savableLimit) (h : ¬ settings.HasCountableWelcome) :
    settings.encode? = none := by
  rcases settings with ⟨capacity, welcome⟩
  cases welcome with
  | none =>
      apply absurd _ h
      intro welcome hwelcome
      cases hwelcome
  | some welcome =>
      have hruns : ¬ hasCountableRuns welcome.toList = true := by
        intro hruns
        apply h
        rintro _ ⟨⟩
        exact hruns
      have hprint : printText? welcome.toList = none := if_neg hruns
      unfold encode?
      rw [if_pos hcapacity, welcomeLine?, hprint]
      rfl

/-!
# The lines of the document
-/

def capacityEntry (capacity : UInt64) (rest : List Char) : Key × Node :=
  (bareKey "capacity".toList (' ' :: '=' :: ' ' :: (decimal capacity.toNat ++ '\n' :: rest)),
    .integer ⟨decimal capacity.toNat ++ '\n' :: rest, '\n' :: rest⟩
      (Int64.ofInt capacity.toNat))

def welcomeEntries : Option String → List (Key × Node)
  | none => []
  | some welcome =>
      [(bareKey "welcome".toList (' ' :: '=' :: ' ' :: (printText welcome.toList ++ ['\n'])),
        .text ⟨printText welcome.toList ++ ['\n'], ['\n']⟩ welcome)]

def entries (settings : Settings) : List (Key × Node) :=
  capacityEntry settings.capacity (welcomeLine settings.welcome) ::
    welcomeEntries settings.welcome

theorem isBareName_messenger : IsBareName "messenger".toList :=
  ⟨List.cons_ne_nil _ _, rfl⟩

theorem isBareName_capacity : IsBareName "capacity".toList :=
  ⟨List.cons_ne_nil _ _, rfl⟩

theorem isBareName_welcome : IsBareName "welcome".toList :=
  ⟨List.cons_ne_nil _ _, rfl⟩

theorem lines?_welcomeLine (welcome : Option String) (b b' : Char) (bound : List Char) :
    lines? (b :: b' :: bound) (welcomeLine welcome) =
      some ((welcomeEntries welcome).map fun entry => .entry entry.1 entry.2) := by
  cases welcome with
  | none => exact lines?_nil b (b' :: bound)
  | some welcome =>
      have hnode := node?_printText welcome.toList []
      rw [String.ofList_toList] at hnode
      have hline := lines?_entry isBareName_welcome (skipBlanks_printText welcome.toList ['\n'])
        hnode b (b' :: bound)
      rw [lines?_nil] at hline
      have htext : welcomeLine (some welcome) = "welcome".toList ++
          ' ' :: '=' :: ' ' :: (printText welcome.toList ++ ['\n']) := rfl
      rw [htext, hline]
      rfl

theorem toNat_lt_of_lt_savableLimit {capacity : UInt64} (h : capacity < savableLimit) :
    capacity.toNat < 0x8000000000000000 := h

theorem lines?_capacityLine {capacity : UInt64} (hcapacity : capacity < savableLimit)
    (rest : List Char) (b : Char) (bound : List Char) :
    lines? (b :: bound) (capacityLine capacity ++ rest) =
      (lines? bound rest).map
        (.entry (capacityEntry capacity rest).1 (capacityEntry capacity rest).2 :: ·) := by
  have hnode := node?_decimal (toNat_lt_of_lt_savableLimit hcapacity) rest
  have hline := lines?_entry isBareName_capacity (skipBlanks_decimal capacity.toNat rest) hnode
    b bound
  have htext : capacityLine capacity ++ rest = "capacity".toList ++
      ' ' :: '=' :: ' ' :: (decimal capacity.toNat ++ '\n' :: rest) := by
    unfold capacityLine
    rw [List.append_assoc, List.append_assoc]
    rfl
  rw [htext, hline]
  rfl

def body (settings : Settings) : List Char :=
  capacityLine settings.capacity ++ welcomeLine settings.welcome

theorem lines?_body {settings : Settings} (hcapacity : settings.capacity < savableLimit)
    (b b' b'' : Char) (bound : List Char) :
    lines? (b :: b' :: b'' :: bound) settings.body =
      some (settings.entries.map fun entry => .entry entry.1 entry.2) := by
  unfold body
  rw [lines?_capacityLine hcapacity, lines?_welcomeLine]
  rfl

theorem lines?_document {settings : Settings} (hcapacity : settings.capacity < savableLimit) :
    lines? (' ' :: settings.document) settings.document =
      some (.header false (bareKey "messenger".toList (']' :: '\n' :: settings.body))
          ⟨settings.document, '\n' :: settings.body⟩ ::
        settings.entries.map fun entry => .entry entry.1 entry.2) := by
  have htext : settings.document = '[' :: ("messenger".toList ++ ']' :: '\n' :: settings.body) := by
    unfold document
    rw [List.append_assoc]
    rfl
  have hheader := lines?_header isBareName_messenger ' ' settings.document settings.body
  rw [← htext] at hheader
  have hbody : lines? settings.document settings.body =
      some (settings.entries.map fun entry => .entry entry.1 entry.2) := by
    rw [htext]
    exact lines?_body hcapacity '[' 'm' 'e' _
  rw [hheader, hbody]
  rfl

/-!
# The table of the document
-/

theorem divide_entries (entries : List (Key × Node)) :
    divide (entries.map fun entry => .entry entry.1 entry.2) = (entries, []) := by
  induction entries with
  | nil => rfl
  | cons entry entries ih => rw [List.map_cons, divide, ih]

def fields (settings : Settings) : Fields :=
  settings.entries.map fun entry => (entry.1.name, entry.2)

theorem enter_entries (settings : Settings) :
    Fields.enter settings.entries [] = some settings.fields := by
  rcases settings with ⟨capacity, welcome⟩
  cases welcome with
  | none => rfl
  | some welcome => rfl

theorem outline_section {s : Section} {fields : Fields} (hrepeated : s.repeated = false)
    (hpath : s.key.path = []) (hfields : Fields.enter s.entries [] = some fields) :
    outline [] [s] = some [(s.key.name, .table (.header s.fullSpan) fields)] := by
  have htable : s.table [] = some (.table (.header s.fullSpan) fields) := by
    unfold Section.table
    rw [hfields]
    rfl
  have hadd : s.addTo [] = some [(s.key.name, .table (.header s.fullSpan) fields)] := by
    simp [Section.addTo, hrepeated, Fields.extract, htable]
  show [s].foldlM (fun root s => Fields.within s.addTo s.key.path root) [] = _
  rw [List.foldlM_cons, hpath]
  simp [Fields.within, hadd]

theorem read?_document {settings : Settings} (hcapacity : settings.capacity < savableLimit) :
    ∃ messenger origin, messenger.text = "messenger" ∧
      read? settings.document = some [(messenger, .table origin settings.fields)] := by
  have hmark : skipMark settings.document = settings.document := rfl
  have hread : read? settings.document =
      outline [] [⟨false, bareKey "messenger".toList (']' :: '\n' :: settings.body),
        ⟨settings.document, '\n' :: settings.body⟩, settings.entries⟩] := by
    unfold read?
    rw [hmark, lines?_document hcapacity]
    simp only [Option.bind_eq_bind, Option.bind_some, divide, divide_entries]
  rw [outline_section rfl rfl settings.enter_entries] at hread
  exact ⟨_, _, rfl, hread⟩

/-!
# The settings of the document
-/

theorem decodeCapacity_capacityEntry {capacity : UInt64} (hcapacity : capacity < savableLimit)
    (rest : List Char) (span : Span) :
    decodeCapacity (capacityEntry capacity rest).2 span = .ok capacity := by
  have hlt := toNat_lt_of_lt_savableLimit hcapacity
  have hnonneg : 0 ≤ Int64.ofInt capacity.toNat := by
    rw [Int64.le_iff_toInt_le, Int64.toInt_ofInt_of_le (by omega) (by omega)]
    exact Int.natCast_nonneg capacity.toNat
  have hvalue : (Int64.ofInt capacity.toNat).toUInt64 = capacity := by
    rw [Int64.ofInt_eq_ofNat, Int64.toUInt64_ofNat', UInt64.ofNat_toNat]
  simp only [capacityEntry, decodeCapacity]
  rw [if_pos hnonneg, hvalue]

theorem decodeField_capacityEntry {capacity : UInt64} (hcapacity : capacity < savableLimit)
    (settings : Settings) (rest : List Char) :
    settings.decodeField (capacityEntry capacity rest).1.name (capacityEntry capacity rest).2 =
      .ok { settings with capacity } := by
  have hname : (capacityEntry capacity rest).1.name.text = "capacity" := rfl
  unfold decodeField
  rw [if_pos hname, decodeCapacity_capacityEntry hcapacity]
  rfl

theorem foldlM_welcomeEntries (capacity : UInt64) (welcome : Option String) :
    ((welcomeEntries welcome).map fun entry => (entry.1.name, entry.2)).foldlM
        (fun settings (name, node) => decodeField settings name node) ⟨capacity, none⟩ =
      .ok ⟨capacity, welcome⟩ := by
  cases welcome with
  | none => rfl
  | some welcome => rfl

theorem decodeFields_fields {settings : Settings} (hcapacity : settings.capacity < savableLimit) :
    decodeFields settings.fields = .ok settings := by
  unfold decodeFields fields entries
  rw [List.map_cons, List.foldlM_cons]
  dsimp only
  rw [decodeField_capacityEntry hcapacity]
  exact foldlM_welcomeEntries settings.capacity settings.welcome

theorem decode_document {settings : Settings} (hcapacity : settings.capacity < savableLimit) :
    decode (String.ofList settings.document) = .ok settings := by
  rcases read?_document hcapacity with ⟨messenger, origin, hname, hread⟩
  have hroot : decodeRoot [(messenger, .table origin settings.fields)] = .ok settings := by
    simp [decodeRoot, hname, decodeNode, decodeFields_fields hcapacity]
  unfold decode
  rw [String.toList_ofList, hread]
  simp only [hroot]

end Settings
end MessageBoard
