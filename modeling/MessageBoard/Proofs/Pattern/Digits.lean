import MessageBoard.Pattern.Item
import MessageBoard.Proofs.Document.Decimal

/-!
# Digits of time patterns

A number with zeros in front is read back by whoever knows how many digits it has, whatever comes
after it.  All layouts that fill up with zeros write numbers in this way, the single digit and the
pair among them.
-/

namespace MessageBoard

/-!
# Powers of ten
-/

theorem powerOfTen_add (m n : Nat) : powerOfTen (m + n) = powerOfTen m * powerOfTen n :=
  Nat.pow_add 10 m n

/-!
# Width
-/

section Padded

variable {width n : Nat}

theorem isDigit_of_mem_paddedDecimal {c : Char} (h : c ∈ paddedDecimal width n) :
    c.isDigit = true := by
  rcases List.mem_append.mp h with hzero | hdigit
  · rw [List.eq_of_mem_replicate hzero]
    decide
  · exact isDigit_of_mem_decimal hdigit

theorem le_length_paddedDecimal (width n : Nat) : width ≤ (paddedDecimal width n).length := by
  simp only [paddedDecimal, List.length_append, List.length_replicate]
  omega

theorem length_paddedDecimal (hwidth : 0 < width) (h : n < powerOfTen width) :
    (paddedDecimal width n).length = width := by
  have hle : (decimal n).length ≤ width := (Nat.length_toDigits_le_iff (by decide) hwidth).mpr h
  simp only [paddedDecimal, List.length_append, List.length_replicate]
  omega

theorem paddedDecimal_one (h : n < 10) : paddedDecimal 1 n = decimal n := by
  simp [paddedDecimal, decimal_of_lt h]

theorem paddedDecimal_two (h : n < 100) : paddedDecimal 2 n = twoDigits n := by
  by_cases hn : n < 10
  · have htens : n / 10 = 0 := Nat.div_eq_of_lt hn
    have hones : n % 10 = n := Nat.mod_eq_of_lt hn
    simp [paddedDecimal, twoDigits, decimal_of_lt hn, htens, hones]
  · have htens : n / 10 < 10 := by omega
    simp [paddedDecimal, twoDigits, decimal_of_le (Nat.le_of_not_lt hn), decimal_of_lt htens]

end Padded

namespace Document

/-!
# Reading
-/

section Reading

variable {count value : Nat} {digits rest : List Char}

theorem fixedDigits?_cons {c : Char} (hc : c.isDigit = true)
    (h : fixedDigits? count digits = some (value, rest)) :
    fixedDigits? (count + 1) (c :: digits) =
      some ((c.toNat - '0'.toNat) * powerOfTen count + value, rest) := by
  rw [fixedDigits?, if_pos hc, h]
  rfl

theorem fixedDigits?_add {more value' : Nat} {middle : List Char}
    (h : fixedDigits? count digits = some (value, middle))
    (hmore : fixedDigits? more middle = some (value', rest)) :
    fixedDigits? (count + more) digits = some (value * powerOfTen more + value', rest) := by
  induction count generalizing digits value with
  | zero =>
      rw [fixedDigits?, Option.some.injEq, Prod.mk.injEq] at h
      rcases h with ⟨rfl, rfl⟩
      rw [Nat.zero_add, Nat.zero_mul, Nat.zero_add]
      exact hmore
  | succ count ih =>
      cases digits with
      | nil => simp [fixedDigits?] at h
      | cons c digits =>
          by_cases hc : c.isDigit = true
          · simp only [fixedDigits?, if_pos hc, Option.bind_eq_bind, Option.bind_eq_some_iff,
              Option.some.injEq, Prod.mk.injEq] at h
            rcases h with ⟨⟨value₀, middle₀⟩, hread, rfl, rfl⟩
            rw [Nat.add_right_comm, fixedDigits?_cons hc (ih hread), powerOfTen_add,
              Nat.add_mul, Nat.mul_assoc, Nat.add_assoc]
          · simp [fixedDigits?, hc] at h

theorem fixedDigits?_digitChar {d : Nat} (h : d < 10) (rest : List Char) :
    fixedDigits? 1 (d.digitChar :: rest) = some (d, rest) := by
  have hdigit : ∀ d < 10, (Nat.digitChar d).isDigit = true ∧
      ((Nat.digitChar d).toNat - '0'.toNat) * powerOfTen 0 + 0 = d := by decide
  have hnothing : fixedDigits? 0 rest = some (0, rest) := rfl
  rw [fixedDigits?_cons (hdigit d h).1 hnothing, (hdigit d h).2]

theorem fixedDigits?_decimal (n : Nat) (rest : List Char) :
    fixedDigits? (decimal n).length (decimal n ++ rest) = some (n, rest) := by
  induction n using Nat.strongRecOn generalizing rest with
  | ind n ih =>
      by_cases hn : n < 10
      · rw [decimal_of_lt hn]
        exact fixedDigits?_digitChar hn rest
      · have hones := fixedDigits?_digitChar (Nat.mod_lt n (by decide : 0 < 10)) rest
        have htens := ih (n / 10) (by omega) ((n % 10).digitChar :: rest)
        have hvalue : n / 10 * powerOfTen 1 + n % 10 = n := by
          show n / 10 * 10 + n % 10 = n
          omega
        rw [decimal_of_le (Nat.le_of_not_lt hn), List.append_assoc, List.length_append]
        rw [List.singleton_append, List.length_singleton, fixedDigits?_add htens hones, hvalue]

theorem fixedDigits?_zeros (zeros : Nat) (h : fixedDigits? count digits = some (value, rest)) :
    fixedDigits? (zeros + count) (List.replicate zeros '0' ++ digits) = some (value, rest) := by
  induction zeros with
  | zero => rwa [Nat.zero_add]
  | succ zeros ih =>
      have hnothing : ('0'.toNat - '0'.toNat) * powerOfTen (zeros + count) + value = value := by
        rw [Nat.sub_self, Nat.zero_mul, Nat.zero_add]
      rw [Nat.add_right_comm, List.replicate_succ, List.cons_append,
        fixedDigits?_cons (by decide) ih, hnothing]

theorem fixedDigits?_length_paddedDecimal (width n : Nat) (rest : List Char) :
    fixedDigits? (paddedDecimal width n).length (paddedDecimal width n ++ rest) =
      some (n, rest) := by
  have hzeros := fixedDigits?_zeros (width - (decimal n).length) (fixedDigits?_decimal n rest)
  simp only [paddedDecimal, List.length_append, List.length_replicate, List.append_assoc]
  exact hzeros

theorem fixedDigits?_paddedDecimal {width n : Nat} (hwidth : 0 < width)
    (h : n < powerOfTen width) (rest : List Char) :
    fixedDigits? width (paddedDecimal width n ++ rest) = some (n, rest) := by
  have hread := fixedDigits?_length_paddedDecimal width n rest
  rwa [length_paddedDecimal hwidth h] at hread

theorem fixedDigits?_twoDigits {n : Nat} (h : n < 100) (rest : List Char) :
    fixedDigits? 2 (twoDigits n ++ rest) = some (n, rest) := by
  rw [← paddedDecimal_two h]
  exact fixedDigits?_paddedDecimal (by decide) h rest

end Reading

end Document

/-!
# Layouts
-/

namespace Pattern

theorem fill_zero (width n : Nat) : fill .zero width [] (decimal n) = paddedDecimal width n := by
  simp [fill, paddedDecimal]

theorem fill_zero_sign (width n : Nat) (sign : Char) :
    fill .zero (width + 1) [sign] (decimal n) = sign :: paddedDecimal width n := by
  have hmissing : width + 1 - (1 + (decimal n).length) = width - (decimal n).length := by omega
  simp [fill, paddedDecimal, hmissing]

theorem writePair_zero {n : Nat} (h : n < 100) : writePair .zero n = twoDigits n := by
  have htens : ∀ tens < 10, Char.ofNat ('0'.toNat + tens) = Nat.digitChar tens := by decide
  have hpair : writePair .zero n = [Char.ofNat ('0'.toNat + n / 10), Nat.digitChar (n % 10)] := by
    unfold writePair
    cases n / 10 <;> rfl
  rw [hpair, htens (n / 10) (by omega)]
  rfl

theorem write_single {n : Nat} (h : n < 10) (padding : Padding) :
    Layout.single.write padding n = paddedDecimal 1 n :=
  (paddedDecimal_one h).symm

theorem write_pair {n : Nat} (h : n < 100) : Layout.pair.write .zero n = twoDigits n :=
  writePair_zero h

theorem write_wide (width n : Nat) : (Layout.wide width).write .zero n = paddedDecimal width n := by
  rw [← fill_zero]
  rfl

end Pattern
end MessageBoard
