import TablePackage.Proofs.Text.Reading
import TablePackage.LineRange

/-!
# Selected lines

The lines of a text are pieces of it, one after the other, so whatever is selected by offsets or
by a range of lines is a piece of the text as well.

* `flatten_ofText`: the lines one after the other are the text;
* `slice_infix`, `LineRange.select_infix`: what is selected is a piece of the text;
* `slice_append`, `slice_eq_iff`: which piece lies between two places.
-/

namespace TablePackage

/-! ## Slices -/

section Slices

variable {α : Type} {xs w u v : List α} {i j : Nat}

/-- What lies between two places, counted from the start. -/
theorem slice_natCast (xs : List α) (i j : Nat) :
    slice xs (some (i : Int)) (some (j : Int)) = (xs.take j).drop i := by
  have hplace : ∀ k : Nat, placeOf xs.length (k : Int) = min k xs.length := fun k => by
    rw [placeOf, if_neg (by omega), Int.toNat_natCast]
  rw [slice, Option.map_some, Option.map_some, Option.getD_some, Option.getD_some, hplace, hplace,
    ← List.take_take, List.take_length]
  rcases Nat.le_total i xs.length with hi | hi
  · rw [Nat.min_eq_left hi]
  · rw [Nat.min_eq_right hi, List.drop_eq_nil_of_le (List.length_take_le' j xs),
      List.drop_eq_nil_of_le (Nat.le_trans (List.length_take_le' j xs) hi)]

/-- A slice without an end goes on to the end of the list. -/
theorem slice_none (xs : List α) (start : Option Int) :
    slice xs start none = slice xs start (some (xs.length : Int)) := by
  rw [slice, slice, Option.map_none, Option.map_some, Option.getD_none, Option.getD_some, placeOf,
    if_neg (by omega), Int.toNat_natCast, Nat.min_self]

/-- A slice of what a list is mapped to. -/
theorem slice_map {β : Type} (f : α → β) (xs : List α) (start stop : Option Int) :
    slice (xs.map f) start stop = (slice xs start stop).map f := by
  rw [slice, slice, List.length_map, List.map_drop, List.map_take]

/-- A piece of a list lies between its two ends. -/
theorem slice_append (u w v : List α) :
    slice (u ++ (w ++ v)) (some (u.length : Int)) (some ((u.length + w.length : Nat) : Int)) =
      w := by
  rw [slice_natCast, ← List.append_assoc, ← List.length_append, List.take_left, List.drop_left]

/-- What lies between two places is a piece of the list with these ends, if there is anything. -/
theorem slice_eq_iff (hw : w ≠ []) :
    j ≤ xs.length ∧ slice xs (some (i : Int)) (some (j : Int)) = w ↔
      ∃ u v, xs = u ++ (w ++ v) ∧ i = u.length ∧ j = i + w.length := by
  constructor
  · rintro ⟨hj, rfl⟩
    rw [slice_natCast] at hw ⊢
    have hij : i ≤ j := by
      by_contra hlt
      exact hw (List.drop_eq_nil_of_le (Nat.le_trans (List.length_take_le j xs) (by omega)))
    refine ⟨xs.take i, xs.drop j, ?_, ?_, ?_⟩
    · rw [← List.append_assoc, ← Nat.min_eq_left hij, ← List.take_take, Nat.min_eq_left hij,
        List.take_append_drop, List.take_append_drop]
    · rw [List.length_take, Nat.min_eq_left (Nat.le_trans hij hj)]
    · rw [List.length_drop, List.length_take, Nat.min_eq_left hj, Nat.add_sub_cancel' hij]
  · rintro ⟨u, v, rfl, rfl, rfl⟩
    refine ⟨?_, slice_append u w v⟩
    rw [List.length_append, List.length_append]
    omega

end Slices

/-- What lies between two offsets is a piece of the whole. -/
theorem slice_infix {α : Type} (xs : List α) (start stop : Option Int) :
    slice xs start stop <:+: xs :=
  (List.drop_suffix _ _).isInfix.trans (List.take_prefix _ _).isInfix

namespace Lines

/-- The lines of a text one after the other are the text. -/
theorem flatten_ofText (t : Text) : (ofText t).flatten = t := by
  fun_induction ofText t with
  | case1 => rfl
  | case2 t ih => rw [List.flatten_cons, ih]; rfl
  | case3 c t _ _ ih => rw [List.flatten_cons, ih]; rfl
  | case4 c t _ _ hnil ih =>
    rw [hnil] at ih
    rw [← ih]
    rfl
  | case5 c t _ _ line lines hcons ih =>
    rw [hcons, List.flatten_cons] at ih
    rw [List.flatten_cons, List.cons_append, ih]

/-- A text without its line ending is a start of it. -/
theorem dropEnding_isPrefix (t : Text) : dropEnding t <+: t := by
  have hrev : ∀ {r : Text} (e : Text), t.reverse = e ++ r → r.reverse <+: t := fun e h =>
    ⟨e.reverse, by rw [← List.reverse_append, ← h, List.reverse_reverse]⟩
  unfold dropEnding
  split
  · rename_i r h
    exact hrev ['\n', '\r'] h
  · rename_i r _ h
    exact hrev ['\n'] h
  · rename_i r h
    exact hrev ['\r'] h
  · exact List.prefix_rfl

/-- The lines in a range are a piece of the text. -/
theorem range_infix (t : Text) (first last : Option Int) : range t first last <:+: t := by
  have hlines : ∀ start, (slice (ofText t) start last).flatten <:+: t := fun start => by
    obtain ⟨u, v, h⟩ := slice_infix (ofText t) start last
    refine ⟨u.flatten, v.flatten, ?_⟩
    rw [← List.flatten_append, ← List.flatten_append, h, flatten_ofText]
  unfold range
  split
  · exact List.infix_rfl
  · dsimp only
    split
    · exact (dropEnding_isPrefix _).isInfix.trans (hlines _)
    · exact hlines _

end Lines

/-- The lines that are selected are a piece of the text. -/
theorem LineRange.select_infix (r : LineRange) (t : Text) : r.select t <:+: t :=
  Lines.range_infix t r.first r.last

/-- Without numbers, all of a text is selected. -/
theorem LineRange.select_whole (t : Text) : LineRange.select {} t = t := rfl

end TablePackage
