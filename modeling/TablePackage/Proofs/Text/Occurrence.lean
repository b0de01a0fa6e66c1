import TablePackage.Proofs.Text.Reading

/-!
# Occurrences

Where a text occurs in another one for the first time, and what replacing it there does.

* `cut?_eq_some_iff`: a text is cut at the first occurrence of another one;
* `cut?_isSome_iff`: it is cut if there is an occurrence at all;
* `FirstAt.append`: what stands behind the first occurrence does not matter;
* `FirstAt.replaceFirst`: an occurrence is replaced with nothing else changed.
-/

namespace TablePackage.Text

variable {needle t u v : Text}

/-- `needle` occurs in `t` between `u` and `v`, and nowhere before. -/
structure FirstAt (needle t u v : Text) : Prop where
  eq_append : t = u ++ needle ++ v
  first : ∀ u' v', t = u' ++ needle ++ v' → u.length ≤ u'.length

/-- There is only one first occurrence. -/
theorem FirstAt.unique {u' v' : Text} (h : FirstAt needle t u v) (h' : FirstAt needle t u' v') :
    u = u' ∧ v = v' := by
  have hlen : u.length = u'.length :=
    Nat.le_antisymm (h.first u' v' h'.eq_append) (h'.first u v h.eq_append)
  have heq := h.eq_append.symm.trans h'.eq_append
  rw [List.append_assoc, List.append_assoc] at heq
  obtain ⟨rfl, hv⟩ := List.append_inj heq hlen
  exact ⟨rfl, List.append_cancel_left hv⟩

/-- What a cut gives is the first occurrence. -/
theorem firstAt_of_cut? (h : cut? needle t = some (u, v)) : FirstAt needle t u v := by
  induction t generalizing u v with
  | nil =>
    obtain ⟨r, hr, he⟩ := Option.map_eq_some_iff.1 h
    obtain ⟨rfl, rfl⟩ := Prod.mk.inj he
    exact ⟨after?_beq_eq_some_iff.1 hr, fun _ _ _ => Nat.zero_le _⟩
  | cons c t ih =>
    unfold cut? at h
    split at h
    · rename_i hr
      obtain ⟨rfl, rfl⟩ := Prod.mk.inj (Option.some.inj h)
      exact ⟨after?_beq_eq_some_iff.1 hr, fun _ _ _ => Nat.zero_le _⟩
    · rename_i hnone
      obtain ⟨⟨u₀, v₀⟩, hcut, he⟩ := Option.map_eq_some_iff.1 h
      obtain ⟨rfl, rfl⟩ := Prod.mk.inj he
      obtain ⟨ht, hfirst⟩ := ih hcut
      refine ⟨congrArg (c :: ·) ht, fun u' v' h' => ?_⟩
      cases u' with
      | nil =>
        rw [after?_beq_eq_some_iff.2 (by simpa using h')] at hnone
        cases hnone
      | cons d u' => exact Nat.succ_le_succ (hfirst u' v' (List.cons.inj h').2)

/-- A text is cut where another one occurs. -/
theorem cut?_isSome_iff : (cut? needle t).isSome ↔ needle <:+: t := by
  constructor
  · intro h
    obtain ⟨⟨u, v⟩, huv⟩ := Option.isSome_iff_exists.1 h
    exact ⟨u, v, (firstAt_of_cut? huv).eq_append.symm⟩
  · rintro ⟨u, v, rfl⟩
    induction u with
    | nil =>
      have h : after? (· == ·) needle ([] ++ needle ++ v) = some v :=
        after?_beq_eq_some_iff.2 (by simp)
      cases ht : [] ++ needle ++ v with
      | nil => rw [ht] at h; rw [cut?, h]; rfl
      | cons c t => rw [ht] at h; rw [cut?, h]; rfl
    | cons c u ih =>
      rw [List.cons_append, List.cons_append, cut?]
      split
      · rfl
      · rw [Option.isSome_map]; exact ih

/-- A text is cut at the first occurrence of another one. -/
theorem cut?_eq_some_iff : cut? needle t = some (u, v) ↔ FirstAt needle t u v := by
  refine ⟨firstAt_of_cut?, fun h => ?_⟩
  obtain ⟨⟨u', v'⟩, hcut⟩ :=
    Option.isSome_iff_exists.1 (cut?_isSome_iff.2 ⟨u, v, h.eq_append.symm⟩)
  obtain ⟨rfl, rfl⟩ := h.unique (firstAt_of_cut? hcut)
  exact hcut

/-- What occurs in a text has a first occurrence. -/
theorem exists_firstAt (h : needle <:+: t) : ∃ u v, FirstAt needle t u v := by
  obtain ⟨⟨u, v⟩, hcut⟩ := Option.isSome_iff_exists.1 (cut?_isSome_iff.2 h)
  exact ⟨u, v, firstAt_of_cut? hcut⟩

/-- The first occurrence of a text in itself is the whole text. -/
theorem firstAt_self (t : Text) : FirstAt t t [] [] :=
  ⟨by simp, fun _ _ _ => Nat.zero_le _⟩

/-- The first occurrence of a text stays the first one, whatever stands behind it. -/
theorem FirstAt.append (h : FirstAt needle t u v) (w : Text) :
    FirstAt needle (u ++ needle ++ w) u w := by
  refine ⟨rfl, fun u' w' heq => ?_⟩
  rcases Nat.le_total u.length u'.length with hle | hle
  · exact hle
  -- An earlier one ends before the first one does, so it was there with `v` behind it, too.
  have hprefix : u' ++ needle <+: u ++ needle :=
    List.prefix_of_prefix_length_le ⟨w', heq.symm⟩ ⟨w, rfl⟩ (by
      rw [List.length_append, List.length_append]
      omega)
  obtain ⟨r, hr⟩ := hprefix
  refine h.first u' (r ++ v) ?_
  rw [h.eq_append, ← hr, List.append_assoc]

/-- Replacing puts the replacement where the first occurrence was. -/
theorem FirstAt.replaceFirst (h : FirstAt needle t u v) (new : Text) :
    Text.replaceFirst needle new t = u ++ new ++ v := by
  rw [Text.replaceFirst, cut?_eq_some_iff.2 h]

end TablePackage.Text
