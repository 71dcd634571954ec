import MessageBoard.Log

/-!
# The last items of a list

What a log keeps of its entries are the last of them.  Cutting a list down to its last items early
or late makes no difference to what is left of it when more is added.
-/

namespace MessageBoard

def lastItems {α : Type} (n : Nat) (xs : List α) : List α := xs.drop (xs.length - n)

theorem lastItems_nil {α : Type} (n : Nat) : lastItems n ([] : List α) = [] := by
  simp [lastItems]

theorem length_lastItems {α : Type} (n : Nat) (xs : List α) :
    (lastItems n xs).length = min n xs.length := by
  simp only [lastItems, List.length_drop]
  omega

theorem lastItems_of_length_le {α : Type} {n : Nat} {xs : List α} (h : xs.length ≤ n) :
    lastItems n xs = xs := by
  simp [lastItems, Nat.sub_eq_zero_of_le h]

theorem evict_eq_lastItems (capacity : Nat) (entries : List Entry) :
    evict capacity entries = lastItems capacity entries := by
  induction entries with
  | nil => exact (lastItems_nil capacity).symm
  | cons entry entries ih =>
      rw [evict]
      by_cases hfull : capacity < entries.length + 1
      · have hdropped : (entry :: entries).length - capacity = entries.length - capacity + 1 := by
          rw [List.length_cons]
          omega
        rw [if_pos hfull, ih]
        unfold lastItems
        rw [hdropped, List.drop_succ_cons]
      · rw [if_neg hfull, lastItems_of_length_le (Nat.le_of_not_lt hfull)]

theorem lastItems_suffix {α : Type} (n : Nat) (xs : List α) : lastItems n xs <:+ xs :=
  List.drop_suffix _ _

theorem lastItems_lastItems_append {α : Type} (n : Nat) (xs ys : List α) :
    lastItems n (lastItems n xs ++ ys) = lastItems n (xs ++ ys) := by
  have hfront : lastItems n xs ++ ys = (xs ++ ys).drop (xs.length - n) := by
    rw [List.drop_append_of_le_length (Nat.sub_le _ _)]
    rfl
  have hlength : (lastItems n xs ++ ys).length = min n xs.length + ys.length := by
    rw [List.length_append, length_lastItems]
  have hdropped :
      xs.length - n + (min n xs.length + ys.length - n) = xs.length + ys.length - n := by
    omega
  unfold lastItems at hlength ⊢
  rw [hlength]
  change (lastItems n xs ++ ys).drop _ = _
  rw [hfront, List.drop_drop, hdropped, List.length_append]

theorem lastItems_append_of_le_length {α : Type} {n : Nat} (xs : List α) {ys : List α}
    (h : n ≤ ys.length) : lastItems n (xs ++ ys) = lastItems n ys := by
  have hdropped : (xs ++ ys).length - n = xs.length + (ys.length - n) := by
    rw [List.length_append]
    omega
  unfold lastItems
  rw [hdropped, List.drop_length_add_append]

theorem getLast?_lastItems {α : Type} (n : Nat) (xs : List α) :
    (lastItems n xs).getLast? = if 0 < n then xs.getLast? else none := by
  unfold lastItems
  rw [List.getLast?_drop]
  by_cases hn : 0 < n
  · rw [if_pos hn]
    cases xs with
    | nil => rfl
    | cons x rest =>
        rw [if_neg]
        rw [List.length_cons]
        omega
  · rw [if_neg hn, if_pos]
    omega

end MessageBoard
