import MessageBoard.Document.Value
import MessageBoard.Number.Whole

/-!
# Whole numbers in documents

A natural number is printed in decimal on the rest of a line.  It is no moment and no
floating-point number, and it is read as a whole number with the same value.
-/

namespace MessageBoard

/-!
# Decimal digits
-/

theorem decimal_of_lt {n : Nat} (h : n < 10) : decimal n = [n.digitChar] :=
  Nat.toDigits_of_lt_base h

theorem decimal_of_le {n : Nat} (h : 10 ≤ n) :
    decimal n = decimal (n / 10) ++ [(n % 10).digitChar] :=
  Nat.toDigits_of_base_le (by decide) h

theorem isDigit_of_mem_decimal {n : Nat} {c : Char} (h : c ∈ decimal n) : c.isDigit = true :=
  Nat.isDigit_of_mem_toDigits (by decide) (by decide) h

theorem decimal_eq_cons {n : Nat} (hn : n ≠ 0) : ∃ c cs, decimal n = c :: cs ∧ c ≠ '0' := by
  induction n using Nat.strongRecOn with
  | ind n ih =>
      by_cases h : n < 10
      · refine ⟨n.digitChar, [], decimal_of_lt h, ?_⟩
        simpa using hn
      · have hle : 10 ≤ n := Nat.le_of_not_lt h
        rcases ih (n / 10) (by omega) (by omega) with ⟨c, cs, hdecimal, hzero⟩
        refine ⟨c, cs ++ [(n % 10).digitChar], ?_, hzero⟩
        rw [decimal_of_le hle, hdecimal]
        rfl

namespace Document

theorem hexDigit?_digitChar : ∀ d < 16, hexDigit? (Nat.digitChar d) = some d := by
  decide

/-- Digits in any base up to sixteen denote the number that they were written for. -/
theorem valueOf_toDigits {base : Nat} (hone : 1 < base) (hbase : base ≤ 16) (n : Nat) :
    valueOf base (Nat.toDigits base n) = n := by
  induction n using Nat.strongRecOn with
  | ind n ih =>
      by_cases h : n < base
      · have hdigit := hexDigit?_digitChar n (Nat.lt_of_lt_of_le h hbase)
        rw [Nat.toDigits_of_lt_base h]
        simp [valueOf, hdigit]
      · have hle : base ≤ n := Nat.le_of_not_lt h
        have hlast : n % base < base := Nat.mod_lt n (Nat.zero_lt_of_lt hone)
        have hdigit := hexDigit?_digitChar (n % base) (Nat.lt_of_lt_of_le hlast hbase)
        have hpositive : 0 < n := Nat.lt_of_lt_of_le (Nat.zero_lt_of_lt hone) hle
        have hless : n / base < n := Nat.div_lt_self hpositive hone
        rw [Nat.toDigits_of_base_le hone hle, valueOf_append_singleton, ih (n / base) hless, hdigit]
        exact Nat.div_add_mod n base

theorem valueOf_decimal (n : Nat) : valueOf 10 (decimal n) = n :=
  valueOf_toDigits (by decide) (by decide) n

/-!
# Digits up to the end of the line
-/

section Digits

variable {digits rest : List Char}

theorem moreDigits_append (hdigits : ∀ c ∈ digits, c.isDigit = true) :
    moreDigits Char.isDigit (digits ++ '\n' :: rest) = (digits, '\n' :: rest) := by
  induction digits with
  | nil => simp [moreDigits]
  | cons c cs ih =>
      have hc : c.isDigit = true := hdigits c List.mem_cons_self
      have hseparator : c ≠ '_' := ne_of_class hc (by decide)
      have htail := ih fun d hd => hdigits d (List.mem_cons_of_mem c hd)
      simp [moreDigits, hseparator, hc, htail]

theorem wholeDigits?_decimal (n : Nat) (rest : List Char) :
    wholeDigits? (decimal n ++ '\n' :: rest) = some (decimal n, '\n' :: rest) := by
  by_cases hn : n = 0
  · rw [hn]
    rfl
  · have hdigits : ∀ c ∈ decimal n, c.isDigit = true := fun c => isDigit_of_mem_decimal
    rcases decimal_eq_cons hn with ⟨c, cs, hdecimal, hzero⟩
    rw [hdecimal] at hdigits ⊢
    have hc : c.isDigit = true := hdigits c List.mem_cons_self
    have htail : moreDigits Char.isDigit (cs ++ '\n' :: rest) = (cs, '\n' :: rest) :=
      moreDigits_append fun d hd => hdigits d (List.mem_cons_of_mem c hd)
    simp [wholeDigits?, hzero, digits?, hc, htail]

/-!
# Whole numbers
-/

theorem sign_of_isDigit {c : Char} (hc : c.isDigit = true) (cs : List Char) :
    sign (c :: cs) = (false, c :: cs) := by
  have hminus : c ≠ '-' := ne_of_class hc (by decide)
  have hplus : c ≠ '+' := ne_of_class hc (by decide)
  simp [sign, hminus, hplus]

theorem exists_decimal_append (n : Nat) (rest : List Char) :
    ∃ c cs, decimal n ++ '\n' :: rest = c :: cs ∧ c.isDigit = true := by
  by_cases hn : n = 0
  · exact ⟨'0', '\n' :: rest, by rw [hn]; rfl, by decide⟩
  · rcases decimal_eq_cons hn with ⟨c, cs, hdecimal, -⟩
    have hc : c.isDigit = true := isDigit_of_mem_decimal (hdecimal ▸ List.mem_cons_self)
    exact ⟨c, cs ++ '\n' :: rest, by rw [hdecimal]; rfl, hc⟩

theorem skipBlanks_decimal (n : Nat) (rest : List Char) :
    skipBlanks (decimal n ++ '\n' :: rest) = decimal n ++ '\n' :: rest := by
  rcases exists_decimal_append n rest with ⟨c, cs, htext, hc⟩
  have hspace : c ≠ ' ' := ne_of_class hc (by decide)
  have htab : c ≠ '\t' := ne_of_class hc (by decide)
  rw [htext]
  apply skipBlanks_cons_of_not_blank
  simp [isBlank, hspace, htab]

theorem sign_decimal (n : Nat) (rest : List Char) :
    sign (decimal n ++ '\n' :: rest) = (false, decimal n ++ '\n' :: rest) := by
  rcases exists_decimal_append n rest with ⟨c, cs, htext, hc⟩
  rw [htext, sign_of_isDigit hc]

theorem word?_of_lt {n : Nat} (hn : n < 0x8000000000000000) : word? n = some (Int64.ofInt n) := by
  have hmin : Int64.minValue.toInt = -0x8000000000000000 := by decide
  have hmax : Int64.maxValue.toInt = 0x7fffffffffffffff := by decide
  unfold word?
  rw [if_pos]
  omega

theorem integer?_decimal {n : Nat} (hn : n < 0x8000000000000000) (rest : List Char) :
    integer? (decimal n ++ '\n' :: rest) = some (Int64.ofInt n, '\n' :: rest) := by
  by_cases hzero : n = 0
  · rw [hzero]
    rfl
  · have hsign := sign_decimal n rest
    have hwhole := wholeDigits?_decimal n rest
    have hvalue := valueOf_decimal n
    rcases decimal_eq_cons hzero with ⟨c, cs, hdecimal, hc⟩
    rw [hdecimal] at hsign hwhole hvalue ⊢
    rw [List.cons_append] at hsign hwhole ⊢
    simp [integer?, hc, hsign, hwhole, hvalue, word?_of_lt hn]

/-!
# Not a floating-point number

The line ends where a point or the letter of an exponent would have to stand.
-/

theorem decimal?_decimal (negative : Bool) (n : Nat) (rest : List Char) :
    decimal? negative (decimal n ++ '\n' :: rest) = none := by
  simp [decimal?, wholeDigits?_decimal, fraction?, exponent?]

theorem float?_decimal (n : Nat) (rest : List Char) :
    float? (decimal n ++ '\n' :: rest) = none := by
  rcases exists_decimal_append n rest with ⟨c, cs, htext, hc⟩
  have hnone := decimal?_decimal false n rest
  have hi : c ≠ 'i' := ne_of_class hc (by decide)
  have hn : c ≠ 'n' := ne_of_class hc (by decide)
  rw [htext] at hnone ⊢
  simp [float?, sign_of_isDigit hc, hi, hn, hnone]

/-!
# Not a moment

A date goes on with a dash after the digits of the year, and a time with a colon after those of the
hour.  What remains here after so many digits begins with a digit or a line feed.
-/

theorem fixedDigits?_append {count value : Nat} {remaining : List Char}
    (hdigits : ∀ c ∈ digits, c.isDigit = true)
    (h : fixedDigits? count (digits ++ '\n' :: rest) = some (value, remaining)) :
    ∃ digits', (∀ c ∈ digits', c.isDigit = true) ∧ remaining = digits' ++ '\n' :: rest := by
  induction count generalizing digits value with
  | zero =>
      refine ⟨digits, hdigits, ?_⟩
      simp only [fixedDigits?, Option.some.injEq, Prod.mk.injEq] at h
      exact h.2.symm
  | succ count ih =>
      cases digits with
      | nil => simp [fixedDigits?] at h
      | cons c cs =>
          have hc : c.isDigit = true := hdigits c List.mem_cons_self
          simp only [fixedDigits?, List.cons_append, if_pos hc, Option.bind_eq_bind,
            Option.bind_eq_some_iff, Option.some.injEq, Prod.mk.injEq] at h
          rcases h with ⟨⟨value', remaining'⟩, hread, -, hremaining⟩
          subst hremaining
          exact ih (fun d hd => hdigits d (List.mem_cons_of_mem c hd)) hread

theorem fixedDigits?_decimal_ne {count n value : Nat} {remaining : List Char} {d : Char}
    (hdigit : d.isDigit = false) (hline : d ≠ '\n') (cs : List Char)
    (h : fixedDigits? count (decimal n ++ '\n' :: rest) = some (value, remaining)) :
    remaining ≠ d :: cs := by
  rcases fixedDigits?_append (fun c => isDigit_of_mem_decimal) h with ⟨digits, hdigits, htext⟩
  rw [htext]
  cases digits with
  | nil => simpa using fun h => absurd h hline.symm
  | cons c digits =>
      intro heq
      have hc : c = d := (List.cons.inj heq).1
      exact ne_of_class (hdigits c List.mem_cons_self) hdigit hc

theorem skipDate?_decimal (n : Nat) (rest : List Char) :
    skipDate? (decimal n ++ '\n' :: rest) = none := by
  unfold skipDate?
  cases hyear : fixedDigits? 4 (decimal n ++ '\n' :: rest) with
  | none => rfl
  | some read =>
      rcases read with ⟨year, remaining⟩
      have hne := fun cs => fixedDigits?_decimal_ne (d := '-') (by decide) (by decide) cs hyear
      simp only [Option.bind_eq_bind, Option.bind_some]

theorem skipTime?_decimal (n : Nat) (rest : List Char) :
    skipTime? (decimal n ++ '\n' :: rest) = none := by
  unfold skipTime? upTo?
  cases hhour : fixedDigits? 2 (decimal n ++ '\n' :: rest) with
  | none => rfl
  | some read =>
      rcases read with ⟨hour, remaining⟩
      have hne := fun cs => fixedDigits?_decimal_ne (d := ':') (by decide) (by decide) cs hhour
      simp only [Option.bind_eq_bind, Option.bind_some]
      by_cases hle : hour ≤ 23
      · rw [if_pos hle, Option.bind_some]
        split
        · rename_i cs
          exact absurd rfl (hne cs)
        · rfl
      · rw [if_neg hle]
        rfl

theorem moment?_decimal (n : Nat) (rest : List Char) :
    moment? (decimal n ++ '\n' :: rest) = none := by
  unfold moment?
  rw [skipDate?_decimal]
  exact skipTime?_decimal n rest

end Digits

/-!
# The value
-/

theorem numberNode?_decimal {n : Nat} (hn : n < 0x8000000000000000) (rest : List Char) :
    numberNode? (decimal n ++ '\n' :: rest) =
      some (.integer ⟨decimal n ++ '\n' :: rest, '\n' :: rest⟩ (Int64.ofInt n), '\n' :: rest) := by
  simp [numberNode?, momentNode?, floatNode?, integerNode?, moment?_decimal, float?_decimal,
    integer?_decimal hn]

theorem node?_decimal {n : Nat} (hn : n < 0x8000000000000000) (rest : List Char) :
    node? (decimal n ++ '\n' :: rest) =
      some (.integer ⟨decimal n ++ '\n' :: rest, '\n' :: rest⟩ (Int64.ofInt n), '\n' :: rest) := by
  have hnumber := numberNode?_decimal hn rest
  rcases exists_decimal_append n rest with ⟨c, cs, htext, hc⟩
  rw [htext] at hnumber ⊢
  have hne : ∀ d, d.isDigit = false → c ≠ d := fun d => ne_of_class hc
  unfold node? nodeWithin?
  simp only [hne '"' (by decide), hne '\'' (by decide), hne '[' (by decide),
    hne '\x7b' (by decide), hne 't' (by decide), hne 'f' (by decide), hne 'i' (by decide),
    hne 'n' (by decide), if_false]
  exact hnumber

end Document
end MessageBoard
