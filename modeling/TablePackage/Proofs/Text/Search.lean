import TablePackage.Proofs.Text.Reading

/-!
# Searching a text

A search tries a reader at every place of a text. `Misses read u s` says that it fails at every
place of `u`, when `s` follows; a search then passes over `u` and goes on with `s`.

* `misses_append`: what is missed in two pieces, one after the other;
* `find?_append_of_misses`: a search passes over what is missed;
* `misses_of_find?_eq_some`: where a search ends, and what it has passed over;
* `find?_eq_some_iff`: a search ends at the first place where the reader succeeds;
* `find?_append_right`: a text in which nothing starts may be put behind the one that is
  searched, if the reader does not go on with it (`Stable`);
* `SettledBy.find?_append`: anything may be put behind it, if the reader stops at a character
  that stands there (`SettledBy`).
-/

namespace TablePackage.Text

variable {α : Type} {read : Text → Option (α × Text)} {t u v s r : Text} {a : α}

/-! ## Places where a reader fails -/

/-- `read` fails at every place of `u`, when `s` follows. -/
def Misses {β : Type} (read : Text → Option β) : Text → Text → Prop
  | [], _ => True
  | c :: u, s => read (c :: (u ++ s)) = none ∧ Misses read u s

section Misses

variable {β : Type} {read : Text → Option β}

/-- What is missed in two pieces, one after the other. -/
theorem misses_append : Misses read (u ++ v) s ↔ Misses read u (v ++ s) ∧ Misses read v s := by
  induction u with
  | nil => exact ⟨fun h => ⟨trivial, h⟩, And.right⟩
  | cons c u ih =>
    rw [List.cons_append, Misses, Misses, ih, List.append_assoc, and_assoc]

/-- All places of a text are missed if the reader fails at each end of it. -/
theorem misses_iff : Misses read u s ↔ ∀ x y, u = x ++ y → y ≠ [] → read (y ++ s) = none := by
  induction u with
  | nil =>
    refine ⟨fun _ x y h hy => absurd ?_ hy, fun _ => trivial⟩
    exact (List.append_eq_nil_iff.1 h.symm).2
  | cons c u ih =>
    rw [Misses, ih]
    constructor
    · rintro ⟨hc, hu⟩ x y h hy
      cases x with
      | nil => obtain rfl : c :: u = y := h; exact hc
      | cons d x => exact hu x y (List.cons.inj h).2 hy
    · intro h
      exact ⟨h [] (c :: u) rfl (List.cons_ne_nil c u),
        fun x y hxy hy => h (c :: x) y (by rw [hxy]; rfl) hy⟩

end Misses

/-! ## Finding -/

/-- A search ends at once where the reader succeeds. -/
theorem find?_of_read (h : read t = some (a, r)) :
    find? read t = some ⟨[], t.take (t.length - r.length), a, r⟩ := by
  cases t with
  | nil => rw [find?, h, List.take_nil]; rfl
  | cons c t => rw [find?, h]

/-- A search ends at once with what the reader takes off. -/
theorem find?_of_read_append (h : read (t ++ r) = some (a, r)) :
    find? read (t ++ r) = some ⟨[], t, a, r⟩ := by
  rw [find?_of_read h, List.length_append, Nat.add_sub_cancel, List.take_left]

/-- A search passes over what is missed. -/
theorem find?_append_of_misses (h : Misses read u s) :
    find? read (u ++ s) = (find? read s).map fun f => { f with before := u ++ f.before } := by
  induction u with
  | nil => cases hs : find? read s <;> rw [List.nil_append, hs] <;> rfl
  | cons c u ih =>
    rw [List.cons_append, find?, h.1, ih h.2, Option.map_map]
    rfl

/-- A search finds nothing if the reader fails everywhere. -/
theorem find?_eq_none (h : Misses read t []) (hnil : read [] = none) : find? read t = none := by
  have ht := find?_append_of_misses h
  rw [List.append_nil] at ht
  rw [ht, find?, hnil]
  rfl

/-- A search that finds nothing has tried the reader everywhere. -/
theorem misses_of_find?_eq_none (h : find? read t = none) : Misses read t [] ∧ read [] = none := by
  induction t with
  | nil => exact ⟨trivial, Option.map_eq_none_iff.1 h⟩
  | cons c t ih =>
    unfold find? at h
    split at h
    · cases h
    · rename_i hc
      obtain ⟨ht, hnil⟩ := ih (Option.map_eq_none_iff.1 h)
      exact ⟨⟨by rw [List.append_nil]; exact hc, ht⟩, hnil⟩

/-- A search that finds a place has tried the reader everywhere before it. -/
theorem misses_of_find?_eq_some {f : Found α} (h : find? read t = some f) :
    ∃ s, t = f.before ++ s ∧ Misses read f.before s ∧ read s = some (f.value, f.rest) ∧
      f.taken = s.take (s.length - f.rest.length) := by
  induction t generalizing f with
  | nil =>
    obtain ⟨⟨a, r⟩, hr, rfl⟩ := Option.map_eq_some_iff.1 h
    exact ⟨[], rfl, trivial, hr, by simp⟩
  | cons c t ih =>
    unfold find? at h
    split at h
    · rename_i hr
      obtain rfl := Option.some.inj h
      exact ⟨c :: t, rfl, trivial, hr, rfl⟩
    · rename_i hc
      obtain ⟨g, hg, rfl⟩ := Option.map_eq_some_iff.1 h
      obtain ⟨s, rfl, hm, hr, htaken⟩ := ih hg
      exact ⟨s, rfl, ⟨hc, hm⟩, hr, htaken⟩

/-! ## First places -/

/-- The first place of `t` where `P` holds of the text from there on is in front of `s`; it has
    `u` before it. -/
structure FirstPlace (P : Text → Prop) (t u s : Text) : Prop where
  eq_append : t = u ++ s
  holds : P s
  first : ∀ x y, t = x ++ y → P y → u.length ≤ x.length

/-- What is missed ends where the first place is. -/
theorem misses_iff_length_le : Misses read u s ↔
    ∀ x y, u ++ s = x ++ y → (read y).isSome → u.length ≤ x.length := by
  rw [misses_iff]
  constructor
  · intro h x y hxy hy
    rcases List.append_eq_append_iff.1 hxy with ⟨z, rfl, -⟩ | ⟨z, rfl, rfl⟩
    · rw [List.length_append]
      exact Nat.le_add_right _ _
    · rcases eq_or_ne z [] with rfl | hz
      · exact Nat.le_of_eq (congrArg List.length (List.append_nil x))
      · rw [h x z rfl hz] at hy
        cases hy
  · rintro h x y rfl hy
    rw [← Option.not_isSome_iff_eq_none]
    intro hsome
    have hle := h x (y ++ s) (List.append_assoc ..) hsome
    have hpos := List.length_pos_iff.2 hy
    rw [List.length_append] at hle
    omega

/-- A search ends at the first place where the reader succeeds. -/
theorem find?_eq_some_iff :
    (∃ f, find? read t = some f ∧ f.before = u ∧ f.value = a ∧ f.rest = r) ↔
      ∃ s, FirstPlace (fun s => (read s).isSome) t u s ∧ read s = some (a, r) := by
  constructor
  · rintro ⟨f, hf, rfl, rfl, rfl⟩
    obtain ⟨s, rfl, hmisses, hread, -⟩ := misses_of_find?_eq_some hf
    exact ⟨s, ⟨rfl, hread ▸ rfl, misses_iff_length_le.1 hmisses⟩, hread⟩
  · rintro ⟨s, ⟨rfl, -, hfirst⟩, hread⟩
    rw [find?_append_of_misses (misses_iff_length_le.2 hfirst), find?_of_read hread]
    exact ⟨_, rfl, List.append_nil u, rfl, rfl⟩

/-- A search finds nothing where the reader fails everywhere. -/
theorem find?_eq_none_iff : find? read t = none ↔ ∀ x y, t = x ++ y → read y = none := by
  constructor
  · rintro h x y rfl
    obtain ⟨hmisses, hnil⟩ := misses_of_find?_eq_none h
    rcases eq_or_ne y [] with rfl | hy
    · exact hnil
    · rw [← List.append_nil y]
      exact misses_iff.1 hmisses x y rfl hy
  · intro h
    refine find?_eq_none (misses_iff.2 fun x y hxy _ => ?_) (h t [] (List.append_nil t).symm)
    rw [List.append_nil]
    exact h x y hxy

/-! ## Texts behind the one that is searched -/

/-- A reader does the same when `s` is put behind what it reads. -/
def Stable (read : Text → Option (α × Text)) (s : Text) : Prop :=
  ∀ t, read (t ++ s) = (read t).map fun (a, r) => (a, r ++ s)

theorem Stable.eq_none (hs : Stable read s) (ht : read t = none) : read (t ++ s) = none := by
  rw [hs, ht]
  rfl

/-- What a reader misses, it misses with `s` behind it. -/
theorem Stable.misses (hs : Stable read s) (hu : Misses read u v) : Misses read u (v ++ s) :=
  misses_iff.2 fun x y hxy hy => by
    rw [← List.append_assoc]
    exact hs.eq_none (misses_iff.1 hu x y hxy hy)

/-- A search finds the same when a text in which nothing starts is put behind. -/
theorem find?_append_right (hs : Stable read s) (hmisses : Misses read s []) :
    find? read (t ++ s) = (find? read t).map fun f => { f with rest := f.rest ++ s } := by
  cases h : find? read t with
  | none =>
    obtain ⟨ht, hnil⟩ := misses_of_find?_eq_none h
    rw [find?_append_of_misses (List.nil_append s ▸ hs.misses ht), find?_eq_none hmisses hnil]
    rfl
  | some f =>
    obtain ⟨v, rfl, hbefore, hread, htaken⟩ := misses_of_find?_eq_some h
    have hread' : read (v ++ s) = some (f.value, f.rest ++ s) := by
      rw [hs, hread]
      rfl
    have htake : (v ++ s).take ((v ++ s).length - (f.rest ++ s).length) = f.taken := by
      rw [List.length_append, List.length_append, Nat.add_sub_add_right,
        List.take_append_of_le_length (Nat.sub_le _ _), htaken]
    rw [List.append_assoc, find?_append_of_misses (hs.misses hbefore), find?_of_read hread', htake,
      Option.map_some, Option.map_some, List.append_nil]

/-! ## Readers that stop at a character -/

section SettledBy

variable {d : Char} {w : Text}

/-- What stands before `d` at the start of two texts stands at the start of the first one. -/
theorem exists_of_append_eq (h : w ++ r = t ++ s) (hd : d ∈ t) (hw : d ∉ w) :
    ∃ r', t = w ++ r' ∧ r = r' ++ s ∧ d ∈ r' := by
  rcases List.append_eq_append_iff.1 h with ⟨r', rfl, rfl⟩ | ⟨x, rfl, rfl⟩
  · exact ⟨r', rfl, rfl, (List.mem_append.1 hd).resolve_left hw⟩
  · exact absurd (List.mem_append_left x hd) hw

/-- What a reader does is settled by the text up to the first `d`, whatever follows. -/
def SettledBy (d : Char) (read : Text → Option (α × Text)) : Prop :=
  ∀ t s, d ∈ t → read (t ++ s) = (read t).map fun (a, r) => (a, r ++ s)

/-- `w` ends with `d`, and has no other one. -/
def IsClosedBy (d : Char) (w : Text) : Prop := ∃ v, w = v ++ [d] ∧ d ∉ v

theorem IsClosedBy.mem (h : IsClosedBy d w) : d ∈ w := by
  obtain ⟨v, rfl, -⟩ := h
  exact List.mem_append_right v List.mem_cons_self

/-- A reader is settled by the text up to the first `d` if it takes off what is closed by `d`. -/
theorem settledBy_of_isClosedBy (written : α → Text → Prop)
    (hread : ∀ {t a r}, read t = some (a, r) ↔ ∃ w, written a w ∧ t = w ++ r)
    (hclosed : ∀ {a w}, written a w → IsClosedBy d w) : SettledBy d read := by
  intro t s hd
  ext ⟨a, r⟩
  simp only [Option.map_eq_some_iff, Prod.exists, hread, Prod.mk.injEq]
  constructor
  · rintro ⟨w, hw, ht⟩
    obtain ⟨v, rfl, hv⟩ := hclosed hw
    rw [List.append_assoc] at ht
    obtain ⟨r', rfl, hr, hmem⟩ := exists_of_append_eq ht.symm hd hv
    cases r' with
    | nil => cases hmem
    | cons c r' =>
      obtain ⟨rfl, rfl⟩ := List.cons.inj hr
      exact ⟨a, r', ⟨_, hw, by rw [List.append_assoc, List.singleton_append]⟩, rfl, rfl⟩
  · rintro ⟨a, r', ⟨w, hw, rfl⟩, rfl, rfl⟩
    exact ⟨w, hw, List.append_assoc ..⟩

/-- What is missed in front of a `d` is missed whatever follows. -/
theorem SettledBy.misses (h : SettledBy d read) (hd : d ∈ v) (hu : Misses read u v) (s : Text) :
    Misses read u (v ++ s) :=
  misses_iff.2 fun x y hxy hy => by
    rw [← List.append_assoc, h _ _ (List.mem_append_right y hd), misses_iff.1 hu x y hxy hy]
    rfl

/-- A text that ends with `d` is missed whatever follows, if it is missed at all. -/
theorem SettledBy.misses_of_getLast? (h : SettledBy d read) (ht : t = [] ∨ t.getLast? = some d)
    (hmisses : Misses read t []) (s : Text) : Misses read t s := by
  rcases ht with rfl | ht
  · trivial
  refine misses_iff.2 fun x y hxy hy => ?_
  have hd : d ∈ y := by
    rw [hxy, List.getLast?_append_of_ne_nil x hy] at ht
    exact List.mem_of_getLast? ht
  have hnone := misses_iff.1 hmisses x y hxy hy
  rw [List.append_nil] at hnone
  rw [h y s hd, hnone]
  rfl

/-- A search finds the same in front of anything if it ends at a place with `d` behind it. -/
theorem SettledBy.find?_append {f : Found α} (h : SettledBy d read)
    (hf : find? read t = some f) (hd : ∀ y, read y = some (f.value, f.rest) → d ∈ y) (s : Text) :
    ∃ g, find? read (t ++ s) = some g ∧ g.before = f.before ∧ g.value = f.value ∧
      g.rest = f.rest ++ s := by
  obtain ⟨y, rfl, hmisses, hread, -⟩ := misses_of_find?_eq_some hf
  have hy := hd y hread
  have hread' : read (y ++ s) = some (f.value, f.rest ++ s) := by
    rw [h y s hy, hread]
    rfl
  rw [List.append_assoc, find?_append_of_misses (h.misses hy hmisses s), find?_of_read hread']
  exact ⟨_, rfl, List.append_nil _, rfl, rfl⟩

end SettledBy

end TablePackage.Text
