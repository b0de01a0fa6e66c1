import Mathlib.Data.List.Forall2

/-!
# Lists

What the library does not say of lists: items that are related one by one, items by their
numbers, and the parts between the occurrences of a separator.

* `forall₂_filterMap`, `forall₂_zipWith`: items that are made of others are related to them;
* `map_filter_zipIdx`: the items between two numbers;
* `length_splitOn`, `not_mem_of_mem_splitOn`, `splitOn_map`: the parts of a list.
-/

namespace TablePackage.Lists

variable {α β γ δ : Type}

/-! ## Related items -/

section Related

variable {R : α → β → Prop} {S : γ → δ → Prop} {xs : List α} {ys : List β}

/-- What a relation to other items says of the items of a list. -/
theorem forall_mem_of_forall₂ {P : α → Prop} (h : List.Forall₂ R xs ys)
    (hP : ∀ x y, R x y → P x) : ∀ x ∈ xs, P x :=
  ((List.forall₂_and_left xs ys).1 (h.imp fun x y hxy => ⟨hP x y hxy, hxy⟩)).1

/-- What is made of some items is related to these items. -/
theorem forall₂_filterMap {f : α → Option β} (h : ∀ x ∈ xs, ∀ y, f x = some y → R x y) :
    List.Forall₂ R (xs.filter fun x => (f x).isSome) (xs.filterMap f) := by
  induction xs with
  | nil => exact .nil
  | cons x xs ih =>
    obtain ⟨hx, hxs⟩ := List.forall_mem_cons.1 h
    cases hf : f x with
    | none => rw [List.filter_cons_of_neg (by simp [hf]), List.filterMap_cons_none hf]; exact ih hxs
    | some y =>
      rw [List.filter_cons_of_pos (by simp [hf]), List.filterMap_cons_some hf]
      exact .cons (hx y hf) (ih hxs)

/-- Items that are related to others are related to what is made of both. -/
theorem forall₂_zipWith {f : α → γ} {g : α → β → δ} (h : List.Forall₂ R xs ys)
    (hS : ∀ x y, R x y → S (f x) (g x y)) : List.Forall₂ S (xs.map f) (List.zipWith g xs ys) := by
  induction h with
  | nil => exact .nil
  | cons hxy _ ih => exact .cons (hS _ _ hxy) ih

/-- If something is made of each item, all of it is made of the list. -/
theorem mapM_eq_some {f : α → Option β} (h : List.Forall₂ (fun x y => f x = some y) xs ys) :
    xs.mapM f = some ys := by
  induction h with
  | nil => rfl
  | cons hx _ ih => rw [List.mapM_cons, hx, ih]; rfl

end Related

/-! ## Numbers of items -/

/-- The items between two numbers, counted from `n`. -/
theorem map_filter_zipIdx (xs : List α) (n lo hi : Nat) :
    ((xs.zipIdx n).filter fun x => decide (lo ≤ x.2) && decide (x.2 ≤ hi)).map (·.1) =
      (xs.take (hi + 1 - n)).drop (lo - n) := by
  induction xs generalizing n with
  | nil => rw [List.take_nil, List.drop_nil]; rfl
  | cons x xs ih =>
    rw [List.zipIdx_cons, List.filter_cons]
    rcases Nat.lt_or_ge hi n with hhi | hhi
    · -- All numbers are too large from here on.
      have hrest := ih (n + 1)
      rw [show hi + 1 - (n + 1) = 0 by omega, List.take_zero, List.drop_nil] at hrest
      rw [if_neg (by simp; omega), hrest, show hi + 1 - n = 0 by omega, List.take_zero,
        List.drop_nil]
    · rw [show hi + 1 - n = hi + 1 - (n + 1) + 1 by omega, List.take_succ_cons]
      rcases Nat.lt_or_ge n lo with hlo | hlo
      · rw [if_neg (by simp; omega), ih, show lo - n = lo - (n + 1) + 1 by omega,
          List.drop_succ_cons]
      · rw [if_pos (by simp; omega), List.map_cons, ih, Nat.sub_eq_zero_of_le hlo,
          Nat.sub_eq_zero_of_le (Nat.le_succ_of_le hlo)]
        rfl

/-! ## Parts -/

section Parts

variable [BEq α] {a : α}

/-- There is one part more than there are separators. -/
theorem length_splitOn (a : α) (xs : List α) : (xs.splitOn a).length = xs.count a + 1 := by
  induction xs with
  | nil => rfl
  | cons x xs ih =>
    rw [List.splitOn_cons_eq_if_modifyHead, List.count_cons]
    split
    · rw [List.length_cons, ih]
    · rw [List.length_modifyHead, ih, Nat.add_zero]

/-- No part has a separator. -/
theorem not_mem_of_mem_splitOn [LawfulBEq α] {xs part : List α} (h : part ∈ xs.splitOn a) :
    a ∉ part := by
  induction xs generalizing part with
  | nil =>
    obtain rfl := List.mem_singleton.1 h
    exact List.not_mem_nil
  | cons x xs ih =>
    obtain ⟨first, parts, hparts⟩ := List.exists_cons_of_ne_nil (List.splitOn_ne_nil a xs)
    rw [hparts] at ih
    rw [List.splitOn_cons_eq_if_modifyHead, hparts] at h
    split at h
    · rcases List.mem_cons.1 h with rfl | hpart
      · exact List.not_mem_nil
      · exact ih hpart
    · -- An item that is no separator goes on with the first part.
      rename_i hne
      rw [List.modifyHead_cons] at h
      rcases List.mem_cons.1 h with rfl | hpart
      · rw [List.mem_cons, not_or]
        exact ⟨fun hax => hne (beq_iff_eq.2 hax.symm), ih List.mem_cons_self⟩
      · exact ih (List.mem_cons_of_mem first hpart)

/-- The parts of a mapped list, if no item but the separator is mapped to the new one. -/
theorem splitOn_map [LawfulBEq α] [BEq β] [LawfulBEq β] {f : α → β} {b : β}
    (h : ∀ x, f x = b ↔ x = a) (xs : List α) :
    (xs.map f).splitOn b = (xs.splitOn a).map (·.map f) := by
  induction xs with
  | nil => rfl
  | cons x xs ih =>
    have hbeq : (f x == b) = (x == a) := by rw [Bool.eq_iff_iff, beq_iff_eq, beq_iff_eq, h]
    obtain ⟨first, parts, hparts⟩ := List.exists_cons_of_ne_nil (List.splitOn_ne_nil a xs)
    rw [List.map_cons, List.splitOn_cons_eq_if_modifyHead, List.splitOn_cons_eq_if_modifyHead, ih,
      hparts, hbeq]
    split <;> rfl

end Parts

end TablePackage.Lists
