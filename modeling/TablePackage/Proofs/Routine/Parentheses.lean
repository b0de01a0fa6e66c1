import TablePackage.Proofs.Lines
import TablePackage.Routine

/-!
# Balanced parentheses

The list of parameters of a procedure ends where the parenthesis that opens it is closed. The
search counts how many parentheses are open. What it has read behind `depth + 1` open ones leaves
one of them open all the time, and in the end exactly one (`Leaves`); so the parenthesis at which
it stops is the only one that makes a balanced piece with the first one.

* `leaves_cons`: what one character does to the number of open parentheses;
* `closing?_eq_some_iff`: what the search reads before it stops;
* `closes_iff`: the parenthesis at which it stops is the one that makes a balanced piece;
* `closingOffset_is_exact`: where the search for a closing parenthesis ends, and when it fails.
-/

namespace TablePackage.Routine

variable {c : Char} {depth i start : Nat} {t u v : Text}

/-! ## Balanced pieces -/

/-- `w` has as many closing parentheses as opening ones, but whatever is cut off its end, there are
    more opening ones. -/
structure Balanced (w : Text) : Prop where
  count_eq : w.count '(' = w.count ')'
  count_lt : ∀ x y, w = x ++ y → x ≠ [] → y ≠ [] → x.count ')' < x.count '('

/-- In `t`, the parenthesis at the offset `i` closes the one that opens at `start`. -/
structure Closes (t : Text) (start i : Nat) : Prop where
  opens : t[start]? = some '('
  lt : start < i
  closes : t[i]? = some ')'
  balanced : Balanced (slice t (some (start : Int)) (some ((i + 1 : Nat) : Int)))

/-! ## Counting -/

/-- How many parentheses are open behind `c` if `depth` are before. -/
def depthBehind (depth : Nat) (c : Char) : Nat :=
  if c = ')' then depth - 1 else if c = '(' then depth + 1 else depth

/-- `u` leaves one of `depth + 1` open parentheses open all the time, and in the end no other
    one. -/
structure Leaves (depth : Nat) (u : Text) : Prop where
  count_eq : u.count ')' = u.count '(' + depth
  count_le : ∀ x, x <+: u → x.count ')' ≤ x.count '(' + depth

theorem leaves_nil_iff : Leaves depth [] ↔ depth = 0 := by
  constructor
  · intro h
    simpa using h.count_eq.symm
  · rintro rfl
    refine ⟨rfl, fun x hx => ?_⟩
    rw [List.prefix_nil.1 hx]
    exact Nat.le_refl 0

/-- The open parentheses are counted along a text; there has to be one to be closed. -/
theorem count_depthBehind (hclosed : c = ')' → 0 < depth) (x : Text) :
    (c :: x).count '(' + depth + x.count ')' =
      x.count '(' + depthBehind depth c + (c :: x).count ')' := by
  unfold depthBehind
  by_cases hclose : c = ')'
  · have hpos := hclosed hclose
    subst hclose
    rw [List.count_cons_self, List.count_cons_of_ne (by decide), if_pos rfl]
    omega
  · by_cases hopen : c = '('
    · subst hopen
      rw [List.count_cons_of_ne hclose, List.count_cons_self, if_neg hclose, if_pos rfl]
      omega
    · rw [List.count_cons_of_ne hclose, List.count_cons_of_ne hopen, if_neg hclose, if_neg hopen]

theorem leaves_cons : Leaves depth (c :: u) ↔
    (c = ')' → 0 < depth) ∧ Leaves (depthBehind depth c) u := by
  constructor
  · intro h
    have hclosed : c = ')' → 0 < depth := by
      rintro rfl
      simpa [Nat.lt_iff_add_one_le] using h.count_le [')'] ⟨u, rfl⟩
    refine ⟨hclosed, ?_, fun x hx => ?_⟩
    · have heq := h.count_eq
      have := count_depthBehind hclosed u
      omega
    · have hle := h.count_le (c :: x) ((List.prefix_cons_inj c).2 hx)
      have := count_depthBehind hclosed x
      omega
  · rintro ⟨hclosed, h⟩
    refine ⟨?_, fun x hx => ?_⟩
    · have heq := h.count_eq
      have := count_depthBehind hclosed u
      omega
    · rcases List.prefix_cons_iff.1 hx with rfl | ⟨y, rfl, hy⟩
      · exact Nat.zero_le _
      · have hle := h.count_le y hy
        have := count_depthBehind hclosed y
        omega

/-- One step of the search: it stops where the last open parenthesis is closed. -/
theorem closing?_cons (depth : Nat) (c : Char) (t : Text) :
    closing? depth (c :: t) = if c = ')' ∧ depth = 0 then some ([], t)
      else (closing? (depthBehind depth c) t).map fun (inside, rest) => (c :: inside, rest) := by
  rw [closing?.eq_def]
  dsimp only
  by_cases hclose : c = ')'
  · cases depth with
    | zero => rw [if_pos hclose, if_pos ⟨hclose, rfl⟩]
    | succ depth =>
      rw [if_pos hclose, if_neg (by simp), depthBehind, if_pos hclose, Nat.add_sub_cancel]
  · rw [if_neg hclose, if_neg fun h : c = ')' ∧ depth = 0 => hclose h.1, depthBehind, if_neg hclose]

/-- The search reads what leaves one of the open parentheses open, up to the one that closes it. -/
theorem closing?_eq_some_iff :
    closing? depth t = some (u, v) ↔ t = u ++ ')' :: v ∧ Leaves depth u := by
  -- Along the text; the depth is the number of parentheses that are open besides the last one.
  induction t generalizing depth u with
  | nil =>
    constructor
    · intro h
      cases h
    · rintro ⟨ht, -⟩
      exact absurd ht.symm (List.append_ne_nil_of_right_ne_nil u (List.cons_ne_nil _ v))
  | cons c t ih =>
    rw [closing?_cons]
    split
    · rename_i hlast
      obtain ⟨rfl, rfl⟩ := hlast
      rw [Option.some.injEq, Prod.mk.injEq]
      constructor
      · rintro ⟨rfl, rfl⟩
        exact ⟨rfl, leaves_nil_iff.2 rfl⟩
      · rintro ⟨ht, hu⟩
        cases u with
        | nil => exact ⟨rfl, (List.cons.inj ht).2⟩
        | cons d u =>
          obtain rfl := (List.cons.inj ht).1
          exact absurd ((leaves_cons.1 hu).1 rfl) (Nat.lt_irrefl 0)
    · rename_i hlast
      rw [Option.map_eq_some_iff]
      constructor
      · rintro ⟨⟨w, r⟩, hw, he⟩
        obtain ⟨rfl, rfl⟩ := Prod.mk.inj he
        obtain ⟨rfl, hleaves⟩ := ih.1 hw
        refine ⟨rfl, leaves_cons.2 ⟨fun hc => ?_, hleaves⟩⟩
        exact Nat.pos_of_ne_zero fun hdepth => hlast ⟨hc, hdepth⟩
      · rintro ⟨ht, hu⟩
        cases u with
        | nil => exact absurd ⟨(List.cons.inj ht).1, leaves_nil_iff.1 hu⟩ hlast
        | cons d u =>
          obtain ⟨rfl, rfl⟩ := List.cons.inj ht
          exact ⟨(u, v), ih.2 ⟨rfl, (leaves_cons.1 hu).2⟩, rfl⟩

/-! ## Offsets -/

/-- What stands between two parentheses leaves the first one open if they make a balanced piece. -/
theorem leaves_zero_iff : Leaves 0 u ↔ Balanced ('(' :: (u ++ [')'])) := by
  have hopen : ∀ x : Text, ('(' :: x).count ')' = x.count ')' ∧
      ('(' :: x).count '(' = x.count '(' + 1 := fun x =>
    ⟨List.count_cons_of_ne (by decide), List.count_cons_self⟩
  have hclose : (u ++ [')']).count ')' = u.count ')' + 1 ∧
      (u ++ [')']).count '(' = u.count '(' := by
    rw [List.count_append, List.count_append]
    exact ⟨rfl, rfl⟩
  constructor
  · intro h
    refine ⟨by rw [(hopen _).1, (hopen _).2, hclose.1, hclose.2, h.count_eq], ?_⟩
    intro x y hxy hx hy
    obtain ⟨d, x, rfl⟩ := List.exists_cons_of_ne_nil hx
    obtain ⟨rfl, htail⟩ := List.cons.inj hxy
    have hprefix : x <+: u := by
      rw [List.append_eq, ← List.dropLast_concat_getLast hy, ← List.append_assoc] at htail
      exact ⟨_, (List.append_inj' htail rfl).1.symm⟩
    have hle := h.count_le x hprefix
    rw [(hopen x).1, (hopen x).2]
    omega
  · intro h
    have heq := h.count_eq
    rw [(hopen _).1, (hopen _).2, hclose.1, hclose.2] at heq
    refine ⟨by omega, ?_⟩
    rintro x ⟨y, rfl⟩
    have hlt := h.count_lt ('(' :: x) (y ++ [')']) (by rw [List.cons_append, List.append_assoc])
      (List.cons_ne_nil _ x) (List.append_ne_nil_of_right_ne_nil y (List.cons_ne_nil _ []))
    rw [(hopen x).1, (hopen x).2] at hlt
    omega

/-- A parenthesis is closed where what stands behind it leaves it open up to there. -/
theorem closes_iff : Closes t start i ↔
    ∃ u v, t.drop start = '(' :: (u ++ ')' :: v) ∧ i = start + 1 + u.length ∧ Leaves 0 u := by
  have hpiece : ∀ {u v}, t.drop start = '(' :: (u ++ ')' :: v) → i = start + 1 + u.length →
      slice t (some (start : Int)) (some ((i + 1 : Nat) : Int)) = '(' :: (u ++ [')']) := by
    intro u v ht hi
    have hlength : i + 1 - start = ('(' :: (u ++ [')'])).length := by
      rw [List.length_cons, List.length_append, List.length_singleton]
      omega
    have hleft : '(' :: (u ++ ')' :: v) = '(' :: (u ++ [')']) ++ v := by
      rw [List.cons_append, List.append_assoc, List.singleton_append]
    rw [slice_natCast, List.drop_take, hlength, ht, hleft, List.take_left]
  constructor
  · rintro ⟨hopens, hlt, hcloses, hbalanced⟩
    obtain ⟨k, rfl⟩ := Nat.exists_eq_add_of_lt hlt
    obtain ⟨hstart, hopen⟩ := List.getElem?_eq_some_iff.1 hopens
    obtain ⟨hstop, hclose⟩ := List.getElem?_eq_some_iff.1 hcloses
    have hsplit : t.drop (start + 1) =
        (t.drop (start + 1)).take k ++ ')' :: t.drop (start + k + 1 + 1) := by
      rw [← hclose, ← List.drop_eq_getElem_cons hstop, Nat.add_right_comm,
        ← List.drop_drop (i := k), List.take_append_drop]
    have hlength : ((t.drop (start + 1)).take k).length = k := by
      rw [List.length_take, List.length_drop]
      omega
    have ht := List.drop_eq_getElem_cons hstart
    rw [hopen, hsplit] at ht
    have hi : start + k + 1 = start + 1 + ((t.drop (start + 1)).take k).length := by
      rw [hlength, Nat.add_right_comm]
    exact ⟨_, _, ht, hi, leaves_zero_iff.2 (hpiece ht hi ▸ hbalanced)⟩
  · rintro ⟨u, v, ht, rfl, hu⟩
    have hget : ∀ k, t[start + k]? = ('(' :: (u ++ ')' :: v))[k]? := fun k => by
      rw [← ht, List.getElem?_drop]
    refine ⟨hget 0, by omega, ?_, ?_⟩
    · rw [Nat.add_assoc, hget, Nat.add_comm, List.getElem?_cons_succ,
        List.getElem?_append_right (Nat.le_refl _), Nat.sub_self, List.getElem?_cons_zero]
    · rw [hpiece ht rfl]
      exact leaves_zero_iff.1 hu

/-- From an offset in the text on, the search has an answer, which is where a parenthesis closes. -/
theorem exists_closingOffset (t : Text) (start : Nat) : ∃ o : Option Nat,
    closingOffset t start = .ok (o.map Nat.cast) ∧ ∀ i, o = some i ↔ Closes t start i := by
  rw [closingOffset, if_neg (by omega), if_neg (by omega)]
  dsimp only
  rw [if_neg (by omega), Int.toNat_natCast]
  split
  · rename_i walk ht
    refine ⟨(closing? 0 walk).map fun f => start + 1 + f.1.length, ?_, fun i => ?_⟩
    · cases closing? 0 walk <;> rfl
    · rw [closes_iff, ht, Option.map_eq_some_iff]
      simp only [Prod.exists, closing?_eq_some_iff, List.cons.injEq, true_and]
      constructor
      · rintro ⟨u, v, ⟨hwalk, hu⟩, rfl⟩
        exact ⟨u, v, hwalk, rfl, hu⟩
      · rintro ⟨u, v, hwalk, rfl, hu⟩
        exact ⟨u, v, ⟨hwalk, hu⟩, rfl⟩
  · rename_i ht
    refine ⟨none, rfl, fun i => ⟨fun h => (by cases h), fun h => ?_⟩⟩
    obtain ⟨u, v, hdrop, -⟩ := closes_iff.1 h
    exact absurd hdrop (ht _)

/-- From any offset of a text on, and beyond its end, the search gives the offset of the parenthesis
    that closes the one at the start. There is at most one such offset. The search fails if there is
    none, as where no parenthesis opens at the start. -/
theorem closingOffset_is_exact (t : Text) (start : Nat) :
    (∀ i : Nat, closingOffset t start = .ok (some (i : Int)) ↔ Closes t start i) ∧
    (∀ i j, Closes t start i → Closes t start j → i = j) ∧
    (closingOffset t start = .ok none ↔ ¬∃ i, Closes t start i) ∧
    (t[start]? ≠ some '(' → closingOffset t start = .ok none) := by
  obtain ⟨o, ho, hcloses⟩ := exists_closingOffset t start
  have hnone : closingOffset t start = .ok none ↔ ¬∃ i, Closes t start i := by
    rw [ho, Except.ok.injEq, Option.map_eq_none_iff, Option.eq_none_iff_forall_ne_some, not_exists]
    exact forall_congr' fun i => not_congr (hcloses i)
  refine ⟨fun i => ?_, fun i j hi hj => ?_, hnone, fun hstart => ?_⟩
  · rw [ho, Except.ok.injEq, ← hcloses, ← Option.map_some]
    exact (Option.map_injective fun _ _ => Int.natCast_inj.1).eq_iff
  · exact Option.some.inj (((hcloses i).2 hi).symm.trans ((hcloses j).2 hj))
  · exact hnone.2 fun ⟨i, hi⟩ => hstart hi.opens

/-- Nested parentheses, with a stray one behind them and one that is never closed. -/
theorem closingOffset_is_exact_nested :
    let t : Text := "f(a(b)c)d)(("
    Closes t 1 7 ∧ (∀ i, Closes t 1 i → i = 7) ∧ (¬∃ i, Closes t 10 i) ∧ t[8]? ≠ some '(' ∧
      closingOffset t 8 = .ok none := by
  intro t
  obtain ⟨hcloses, hunique, -⟩ := closingOffset_is_exact t 1
  obtain ⟨-, -, hnone, -⟩ := closingOffset_is_exact t 10
  obtain ⟨-, -, -, hstart⟩ := closingOffset_is_exact t 8
  have h : Closes t 1 7 := (hcloses 7).1 rfl
  have hd : t[8]? ≠ some '(' := by decide
  exact ⟨h, fun i hi => hunique i 7 hi h, hnone.1 rfl, hd, hstart hd⟩

end TablePackage.Routine
