import MessageBoard.Pattern.Reader

/-!
# How patterns are spelled

A pattern is a sequence of characters that stand for themselves and of percent signs with a complete
specifier after each.  The reader, which goes through a pattern one character at a time, accepts the
patterns that are spelled so and no others, with the items that the spelling tells.
-/

namespace MessageBoard
namespace Pattern

/-!
# Spellings
-/

/-- What can stand after a percent sign, and the items that it is for. -/
inductive Specifies : List Char → List Item → Prop where
  | quantity {letter : Char} {quantity : Quantity} {padding : Padding}
      (hletter : quantityOf? letter = some (quantity, padding)) :
      Specifies [letter] [.number quantity padding]
  | padded {mark letter : Char} {quantity : Quantity} {padding usual : Padding}
      (hmark : paddingOf? mark = some padding)
      (hletter : quantityOf? letter = some (quantity, usual)) :
      Specifies [mark, letter] [.number quantity padding]
  | combination {letter : Char} {items : List Item}
      (hletter : combinationOf? letter = some items) : Specifies [letter] items
  | places {digit : Char} {count : Nat} (hdigit : placesOf? digit = some count) :
      Specifies [digit, 'f'] [.fraction false count]
  | pointPlaces {digit : Char} {count : Nat} (hdigit : placesOf? digit = some count) :
      Specifies ['.', digit, 'f'] [.fraction true count]
  | point : Specifies ['.', 'f'] [.fullFraction]
  | minutes : Specifies [':', 'z'] [.offset (.minutes true)]
  | seconds : Specifies [':', ':', 'z'] [.offset .seconds]
  | hours : Specifies [':', ':', ':', 'z'] [.offset .hours]

inductive Spells : List Char → List Item → Prop where
  | nil : Spells [] []
  | character {c : Char} {cs : List Char} {items : List Item} (hc : c ≠ '%')
      (hrest : Spells cs items) : Spells (c :: cs) (.character c :: items)
  | specifier {text cs : List Char} {own items : List Item} (hown : Specifies text own)
      (hrest : Spells cs items) : Spells ('%' :: (text ++ cs)) (own ++ items)

/-!
# Letters

A character has one of the meanings that it can have after a percent sign.
-/

theorem quantityOf?_of_combinationOf? {c : Char} {items : List Item}
    (h : combinationOf? c = some items) : quantityOf? c = none := by
  unfold combinationOf? at h
  split at h
  case h_23 => cases h
  all_goals rfl

theorem of_paddingOf? {c : Char} {padding : Padding} (h : paddingOf? c = some padding) :
    quantityOf? c = none ∧ combinationOf? c = none := by
  unfold paddingOf? at h
  split at h
  case h_4 => cases h
  all_goals exact ⟨rfl, rfl⟩

theorem of_placesOf? {c : Char} {count : Nat} (h : placesOf? c = some count) :
    quantityOf? c = none ∧ combinationOf? c = none ∧ paddingOf? c = none ∧ c ≠ 'f' := by
  unfold placesOf? at h
  split at h
  case h_4 => cases h
  all_goals exact ⟨rfl, rfl, rfl, by decide⟩

/-!
# Patterns in two parts

Where the reader has come to the end of a pattern without a complaint it is outside all specifiers,
and goes on from there as if from the start.
-/

theorem itemsFrom?_append {phase : Phase} {cs : List Char} {items : List Item}
    (h : itemsFrom? phase cs = some items) (more : List Char) :
    itemsFrom? phase (cs ++ more) = (itemsFrom? .outside more).map (items ++ ·) := by
  induction cs generalizing phase items with
  | nil =>
      simp only [itemsFrom?, Option.ite_none_right_eq_some, Option.some.injEq] at h
      rcases h with ⟨rfl, rfl⟩
      exact Option.map_id'.symm
  | cons c cs ih =>
      rw [itemsFrom?] at h
      rw [List.cons_append, itemsFrom?]
      cases hstep : phase.step c with
      | none => simp [hstep] at h
      | some result =>
          rcases result with ⟨own, next⟩
          simp only [hstep, Option.map_eq_some_iff] at h
          rcases h with ⟨rest, hrest, rfl⟩
          simp only [ih hrest, Option.map_map]
          congr 1
          funext items
          exact (List.append_assoc own rest items).symm

/-!
# From spellings to items
-/

theorem itemsFrom?_of_step {phase next : Phase} {c : Char} (h : phase.step c = some ([], next))
    (cs : List Char) : itemsFrom? phase (c :: cs) = itemsFrom? next cs := by
  rw [itemsFrom?, h]
  exact Option.map_id'

theorem itemsFrom?_of_specifies {text : List Char} {own : List Item} (h : Specifies text own) :
    itemsFrom? .percent text = some own := by
  cases h with
  | quantity hletter => simp [itemsFrom?, Phase.step, hletter]
  | @padded mark _ _ padding _ hmark hletter =>
      have hstep : Phase.percent.step mark = some ([], .padded padding) := by
        rcases of_paddingOf? hmark with ⟨hquantity, hcombination⟩
        simp [Phase.step, hquantity, hcombination, hmark]
      rw [itemsFrom?_of_step hstep]
      simp [itemsFrom?, Phase.step, hletter]
  | combination hletter =>
      simp [itemsFrom?, Phase.step, quantityOf?_of_combinationOf? hletter, hletter]
  | @places digit count hdigit =>
      have hstep : Phase.percent.step digit = some ([], .places false count) := by
        rcases of_placesOf? hdigit with ⟨hquantity, hcombination, hpadding, -⟩
        simp [Phase.step, hquantity, hcombination, hpadding, hdigit]
      rw [itemsFrom?_of_step hstep]
      rfl
  | @pointPlaces digit count hdigit =>
      have hpoint : Phase.percent.step '.' = some ([], .point) := rfl
      have hstep : Phase.point.step digit = some ([], .places true count) := by
        simp [Phase.step, (of_placesOf? hdigit).2.2.2, hdigit]
      rw [itemsFrom?_of_step hpoint, itemsFrom?_of_step hstep]
      rfl
  | point => rfl
  | minutes => rfl
  | seconds => rfl
  | hours => rfl

theorem itemsFrom?_of_spells {cs : List Char} {items : List Item} (h : Spells cs items) :
    itemsFrom? .outside cs = some items := by
  induction h with
  | nil => rfl
  | character hc _ ih => simp [itemsFrom?, Phase.step, hc, ih]
  | specifier hown _ ih =>
      have hread := itemsFrom?_append (itemsFrom?_of_specifies hown)
      simp [itemsFrom?, Phase.step, hread, ih]

/-!
# From items to spellings
-/

section Inversion

variable {cs : List Char} {items : List Item}

theorem exists_step {phase : Phase} (hphase : phase ≠ .outside)
    (h : itemsFrom? phase cs = some items) :
    ∃ c rest own next more, cs = c :: rest ∧ phase.step c = some (own, next) ∧
      itemsFrom? next rest = some more ∧ items = own ++ more := by
  cases cs with
  | nil => simp [itemsFrom?, hphase] at h
  | cons c rest =>
      rw [itemsFrom?] at h
      cases hstep : phase.step c with
      | none => simp [hstep] at h
      | some result =>
          rcases result with ⟨own, next⟩
          simp only [hstep, Option.map_eq_some_iff] at h
          rcases h with ⟨more, hmore, hitems⟩
          exact ⟨c, rest, own, next, more, rfl, hstep, hmore, hitems.symm⟩

theorem exists_of_places {point : Bool} {count : Nat}
    (h : itemsFrom? (.places point count) cs = some items) :
    ∃ rest more, cs = 'f' :: rest ∧ itemsFrom? .outside rest = some more ∧
      items = .fraction point count :: more := by
  rcases exists_step (by simp) h with ⟨c, rest, own, next, more, rfl, hstep, hmore, rfl⟩
  simp only [Phase.step, Option.ite_none_right_eq_some, Option.some.injEq, Prod.mk.injEq] at hstep
  rcases hstep with ⟨rfl, rfl, rfl⟩
  exact ⟨rest, more, rfl, hmore, rfl⟩

/-- What is left of a pattern goes on with the end of a specifier that has begun, and after that
like a pattern of its own. -/
def EndsSpecifier (begun : List Char) (cs : List Char) (items : List Item) : Prop :=
  ∃ text own rest more, Specifies (begun ++ text) own ∧ cs = text ++ rest ∧
    itemsFrom? .outside rest = some more ∧ items = own ++ more

theorem endsSpecifier_of_padded {mark : Char} {padding : Padding}
    (hmark : paddingOf? mark = some padding) (h : itemsFrom? (.padded padding) cs = some items) :
    EndsSpecifier [mark] cs items := by
  rcases exists_step (by simp) h with ⟨letter, rest, own, next, more, rfl, hstep, hmore, rfl⟩
  simp only [Phase.step, Option.map_eq_some_iff, Prod.mk.injEq] at hstep
  rcases hstep with ⟨⟨quantity, usual⟩, hletter, rfl, rfl⟩
  exact ⟨[letter], _, rest, more, .padded hmark hletter, rfl, hmore, rfl⟩

theorem endsSpecifier_of_places {digit : Char} {count : Nat} (hdigit : placesOf? digit = some count)
    (h : itemsFrom? (.places false count) cs = some items) : EndsSpecifier [digit] cs items := by
  rcases exists_of_places h with ⟨rest, more, rfl, hmore, rfl⟩
  exact ⟨['f'], _, rest, more, .places hdigit, rfl, hmore, rfl⟩

theorem endsSpecifier_of_point (h : itemsFrom? .point cs = some items) :
    EndsSpecifier ['.'] cs items := by
  rcases exists_step (by simp) h with ⟨c, rest, own, next, more, rfl, hstep, hmore, rfl⟩
  simp only [Phase.step] at hstep
  split at hstep
  · rename_i hc
    simp only [Option.some.injEq, Prod.mk.injEq] at hstep
    rcases hstep with ⟨rfl, rfl⟩
    exact ⟨['f'], _, rest, more, .point, by rw [hc]; rfl, hmore, rfl⟩
  · simp only [Option.map_eq_some_iff, Prod.mk.injEq] at hstep
    rcases hstep with ⟨count, hdigit, rfl, rfl⟩
    rcases exists_of_places hmore with ⟨rest', more', rfl, hmore', rfl⟩
    exact ⟨[c, 'f'], _, rest', more', .pointPlaces hdigit, rfl, hmore', rfl⟩

theorem EndsSpecifier.cons {begun rest : List Char} {c : Char}
    (h : EndsSpecifier (begun ++ [c]) rest items) : EndsSpecifier begun (c :: rest) items := by
  rcases h with ⟨text, own, rest', more, hown, rfl, hmore, rfl⟩
  rw [List.append_assoc] at hown
  exact ⟨c :: text, own, rest', more, hown, rfl, hmore, rfl⟩

theorem endsSpecifier_of_colon {begun : List Char} {count : Nat} {own : List Item}
    (hletter : (Phase.colons count).step 'z' = some (own, .outside))
    (hown : Specifies (begun ++ ['z']) own)
    (hcolon : ∀ rest, count < 3 → itemsFrom? (.colons (count + 1)) rest = some items →
      EndsSpecifier (begun ++ [':']) rest items)
    (h : itemsFrom? (.colons count) cs = some items) : EndsSpecifier begun cs items := by
  rcases exists_step (by simp) h with ⟨c, rest, own', next, more, rfl, hstep, hmore, rfl⟩
  by_cases hc : c = ':'
  · simp only [Phase.step, if_pos hc, Option.ite_none_right_eq_some, Option.some.injEq,
      Prod.mk.injEq] at hstep
    rcases hstep with ⟨hcount, rfl, rfl⟩
    rw [hc]
    exact (hcolon rest hcount hmore).cons
  · by_cases hz : c = 'z'
    · rw [hz, hletter, Option.some.injEq, Prod.mk.injEq] at hstep
      rcases hstep with ⟨rfl, rfl⟩
      exact ⟨['z'], own, rest, more, hown, by rw [hz]; rfl, hmore, rfl⟩
    · simp [Phase.step, hc, hz] at hstep

theorem endsSpecifier_of_colons (h : itemsFrom? (.colons 1) cs = some items) :
    EndsSpecifier [':'] cs items := by
  refine endsSpecifier_of_colon rfl .minutes ?_ h
  intro rest _ hsecond
  refine endsSpecifier_of_colon rfl .seconds ?_ hsecond
  intro rest' _ hthird
  refine endsSpecifier_of_colon rfl .hours ?_ hthird
  intro _ hlimit
  exact absurd hlimit (Nat.lt_irrefl 3)

theorem endsSpecifier_of_percent (h : itemsFrom? .percent cs = some items) :
    EndsSpecifier [] cs items := by
  rcases exists_step (by simp) h with ⟨c, rest, own, next, more, rfl, hstep, hmore, rfl⟩
  simp only [Phase.step] at hstep
  split at hstep
  · rename_i hletter
    cases hstep
    exact ⟨[c], _, rest, more, .quantity hletter, rfl, hmore, rfl⟩
  · rename_i hletter _
    cases hstep
    exact ⟨[c], _, rest, more, .combination hletter, rfl, hmore, rfl⟩
  · rename_i hmark _ _
    cases hstep
    exact EndsSpecifier.cons (endsSpecifier_of_padded hmark hmore)
  · rename_i hdigit _ _ _
    cases hstep
    exact EndsSpecifier.cons (endsSpecifier_of_places hdigit hmore)
  · split at hstep
    · rename_i hc
      cases hstep
      rw [hc]
      exact EndsSpecifier.cons (endsSpecifier_of_colons hmore)
    · rw [Option.ite_none_right_eq_some] at hstep
      rcases hstep with ⟨hc, hstep⟩
      cases hstep
      rw [hc]
      exact EndsSpecifier.cons (endsSpecifier_of_point hmore)

end Inversion

theorem spells_of_itemsFrom? {cs : List Char} {items : List Item}
    (h : itemsFrom? .outside cs = some items) : Spells cs items := by
  -- By the length, since a specifier takes several characters at once.
  induction hlength : cs.length using Nat.strongRecOn generalizing cs items with
  | ind n ih =>
      cases cs with
      | nil =>
          cases h
          exact .nil
      | cons c cs =>
          have hlt : cs.length < n := by
            rw [← hlength]
            exact Nat.lt_succ_self cs.length
          by_cases hc : c = '%'
          · have hpercent : Phase.outside.step c = some ([], .percent) := if_pos hc
            rw [itemsFrom?_of_step hpercent] at h
            rcases endsSpecifier_of_percent h with
              ⟨text, own, rest, more, hown, rfl, hmore, rfl⟩
            have hle : rest.length ≤ (text ++ rest).length := by simp
            rw [hc]
            exact .specifier hown (ih rest.length (Nat.lt_of_le_of_lt hle hlt) hmore rfl)
          · have hplain : Phase.outside.step c = some ([.character c], .outside) := if_neg hc
            simp only [itemsFrom?, hplain, Option.map_eq_some_iff] at h
            rcases h with ⟨more, hmore, rfl⟩
            exact .character hc (ih cs.length hlt hmore rfl)

/-- The reader accepts a pattern exactly if it is spelled right, and tells its items. -/
theorem items?_eq_some_iff {pattern : String} {items : List Item} :
    items? pattern = some items ↔ Spells pattern.toList items :=
  ⟨spells_of_itemsFrom?, itemsFrom?_of_spells⟩

example : items? "%-S%%%:::z" =
    some [.number .second .none, .character '%', .offset .hours] := rfl

/-- There is no padding for a combination. -/
example : items? "%-D" = none := rfl

end Pattern
end MessageBoard
