import MessageBoard.Document.Reader
import Mathlib.Data.List.TakeDrop

/-!
# Lines of a document

A header or an entry with a bare name takes up one line, and the lines after it are read as if they
stood alone.
-/

namespace MessageBoard
namespace Document

/-!
# Bare names
-/

def IsBareName (name : List Char) : Prop := name ≠ [] ∧ name.all isBare = true

/-- The key that a bare name is, where `rest` follows it. -/
def bareKey (name rest : List Char) : Key :=
  ⟨[], ⟨String.ofList name, ⟨name ++ rest, rest⟩⟩⟩

section BareNames

variable {name rest : List Char}

theorem IsBareName.eq_cons (hname : IsBareName name) :
    ∃ c cs, name = c :: cs ∧ isBare c = true := by
  cases name with
  | nil => exact absurd rfl hname.1
  | cons c cs => exact ⟨c, cs, rfl, List.all_eq_true.mp hname.2 c List.mem_cons_self⟩

theorem skipBlanks_bare (hname : IsBareName name) (rest : List Char) :
    skipBlanks (name ++ rest) = name ++ rest := by
  rcases hname.eq_cons with ⟨c, cs, rfl, hc⟩
  have hspace : c ≠ ' ' := ne_of_class hc (by decide)
  have htab : c ≠ '\t' := ne_of_class hc (by decide)
  apply skipBlanks_cons_of_not_blank
  simp [isBlank, hspace, htab]

theorem bareName?_append (hname : IsBareName name)
    (hrest : ∀ c, rest.head? = some c → isBare c = false) :
    bareName? (name ++ rest) = some (name, rest) := by
  have hend : rest.takeWhile isBare = [] ∧ rest.dropWhile isBare = rest := by
    cases rest with
    | nil => exact ⟨rfl, rfl⟩
    | cons c cs =>
        have hc : isBare c = false := hrest c rfl
        simp [hc]
  have hbare := List.all_eq_true.mp hname.2
  have hspan : (name ++ rest).span isBare = (name, rest) := by
    rw [List.span_eq_takeWhile_dropWhile, List.takeWhile_append_of_pos hbare,
      List.dropWhile_append_of_pos hbare, hend.1, hend.2, List.append_nil]
  unfold bareName?
  rw [hspan]
  rcases hname.eq_cons with ⟨c, cs, rfl, -⟩
  rfl

theorem name?_append (hname : IsBareName name)
    (hrest : ∀ c, rest.head? = some c → isBare c = false) :
    name? (name ++ rest) = some ((bareKey name rest).name, rest) := by
  have hread := bareName?_append hname hrest
  rcases hname.eq_cons with ⟨c, cs, rfl, hc⟩
  have hdouble : c ≠ '"' := ne_of_class hc (by decide)
  have hsingle : c ≠ '\'' := ne_of_class hc (by decide)
  rw [List.cons_append] at hread
  simp [name?, hdouble, hsingle, hread, bareKey]

theorem key?_append (hname : IsBareName name)
    (hrest : ∀ c, rest.head? = some c → isBare c = false)
    (hdot : (skipBlanks rest).head? ≠ some '.') :
    key? (name ++ rest) = some (bareKey name rest, skipBlanks rest) := by
  show keyUpTo? (78 + 1) (name ++ rest) = _
  rw [keyUpTo?, skipBlanks_bare hname, name?_append hname hrest]
  simp only [Option.bind_eq_bind, Option.bind_some]
  split
  · rename_i h
    simp [h] at hdot
  · rfl

/-!
# Single lines
-/

theorem lines?_nil (b : Char) (bound : List Char) : lines? (b :: bound) [] = some [] := by
  simp [lines?, skipBlanks]

theorem headerLine?_append (hname : IsBareName name) (rest : List Char) :
    headerLine? ('[' :: (name ++ ']' :: rest)) =
      some (.header false (bareKey name (']' :: rest)) ⟨'[' :: (name ++ ']' :: rest), rest⟩,
        rest) := by
  have hkey : key? (name ++ ']' :: rest) = some (bareKey name (']' :: rest), ']' :: rest) := by
    apply key?_append hname
    · rintro c ⟨⟩
      decide
    · rw [skipBlanks_cons_of_not_blank rest (by decide)]
      simp
  rcases hname.eq_cons with ⟨c, cs, rfl, hc⟩
  have hbracket : c ≠ '[' := ne_of_class hc (by decide)
  rw [List.cons_append] at hkey ⊢
  simp [headerLine?, hbracket, hkey]

theorem lines?_header (hname : IsBareName name) (b : Char) (bound rest : List Char) :
    lines? (b :: bound) ('[' :: (name ++ ']' :: '\n' :: rest)) =
      (lines? bound rest).map
        (.header false (bareKey name (']' :: '\n' :: rest))
          ⟨'[' :: (name ++ ']' :: '\n' :: rest), '\n' :: rest⟩ :: ·) := by
  have hend : lineEnd? ('\n' :: rest) = some rest := rfl
  rw [lines?, skipBlanks_cons_of_not_blank _ (by decide)]
  cases hlines : lines? bound rest <;> simp [headerLine?_append hname, hend, hlines]

theorem entryLine?_append (hname : IsBareName name) {value rest : List Char} {node : Node}
    (hblank : skipBlanks value = value) (hnode : node? value = some (node, rest)) :
    entryLine? (name ++ ' ' :: '=' :: ' ' :: value) =
      some (.entry (bareKey name (' ' :: '=' :: ' ' :: value)) node, rest) := by
  have hkey : key? (name ++ ' ' :: '=' :: ' ' :: value) =
      some (bareKey name (' ' :: '=' :: ' ' :: value), '=' :: ' ' :: value) := by
    apply key?_append hname
    · rintro c ⟨⟩
      decide
    · show ('=' :: ' ' :: value).head? ≠ _
      simp
  have hvalue : skipBlanks (' ' :: value) = value := hblank
  simp [entryLine?, entry?, hkey, hvalue, hnode]

theorem lines?_entry (hname : IsBareName name) {value : List Char} {node : Node}
    (hblank : skipBlanks value = value) (hnode : node? value = some (node, '\n' :: rest))
    (b : Char) (bound : List Char) :
    lines? (b :: bound) (name ++ ' ' :: '=' :: ' ' :: value) =
      (lines? bound rest).map
        (.entry (bareKey name (' ' :: '=' :: ' ' :: value)) node :: ·) := by
  have hend : lineEnd? ('\n' :: rest) = some rest := rfl
  have hentry := entryLine?_append hname hblank hnode
  rw [lines?, skipBlanks_bare hname]
  rcases hname.eq_cons with ⟨c, cs, rfl, hc⟩
  rw [List.cons_append] at hentry ⊢
  have hcomment : c ≠ '#' := ne_of_class hc (by decide)
  have hline : c ≠ '\n' := ne_of_class hc (by decide)
  have hreturn : c ≠ '\r' := ne_of_class hc (by decide)
  have hbracket : c ≠ '[' := ne_of_class hc (by decide)
  cases hlines : lines? bound rest <;>
    simp [hcomment, hline, hreturn, hbracket, hentry, hend, hlines]

end BareNames

end Document
end MessageBoard
