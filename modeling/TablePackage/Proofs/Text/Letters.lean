import TablePackage.Proofs.Text.Unicode
import TablePackage.Proofs.Text.Utf8

/-!
# Letters in either case

What a character may be the same letter as. Symbols and blanks have no case, so they are the same
letter as themselves only (`sameLetter_iff_eq`); and most ASCII letters are written with no
character beyond ASCII (`lt_of_sameLetter`). Both facts come from one about the tables: a
character beyond ASCII folds to itself, or to one of the code points of `isFolded`.
-/

namespace TablePackage.Unicode

variable {a c d : Char} {k q : Text} {n : Nat}

/-! ## Folded characters -/

/-- Whether the code point `n` stands among the lower cases of the run. -/
def CaseRun.covers (r : CaseRun) (n : Nat) : Bool :=
  r.target ≤ n && n ≤ r.target + (r.last - r.first)

/-- Whether another character beyond ASCII may fold to the code point `n`. -/
def isFolded (n : Nat) : Bool := lowerRuns.any (·.covers n) || twins.any (·.2 = n)

/-- The lower cases of all runs are characters. -/
theorem target_lt : ∀ r ∈ lowerRuns, r.target + (r.last - r.first) < 0xD800 ∨
    0xDFFF < r.target ∧ r.target + (r.last - r.first) < 0x110000 := by decide +kernel

theorem twin_lt : ∀ p ∈ twins, p.2 < 0xD800 ∨ 0xDFFF < p.2 ∧ p.2 < 0x110000 := by decide

/-- A character beyond ASCII has no lower case, or one that a run gives. -/
theorem lowerChar_eq_or (h : 128 ≤ c.toNat) :
    lowerChar c = c ∨ lowerRuns.any (·.covers (lowerChar c).toNat) = true := by
  rw [lowerChar, if_neg (Nat.not_lt.2 h)]
  cases hfound : lowerRuns.findSome? (·.target? c.toNat) with
  | none => exact .inl rfl
  | some n =>
    obtain ⟨r, hr, htarget⟩ := List.exists_of_findSome?_eq_some hfound
    obtain ⟨hrange, hn⟩ := Option.ite_none_right_eq_some.1 htarget
    obtain rfl := Option.some.inj hn
    rw [Bool.and_eq_true, Bool.and_eq_true, decide_eq_true_iff, decide_eq_true_iff] at hrange
    have hvalid := target_lt r hr
    refine .inr (List.any_eq_true.2 ⟨r, hr, ?_⟩)
    rw [Option.map_some, Option.getD_some, Utf8.toNat_ofNat (by omega), CaseRun.covers,
      Bool.and_eq_true, decide_eq_true_iff, decide_eq_true_iff]
    omega

/-- A character beyond ASCII folds to itself, or to one of the folded characters. -/
theorem fold_eq_or (h : 128 ≤ c.toNat) : fold c = c ∨ isFolded (fold c).toNat = true := by
  have hfold : fold c = ((twins.lookup (lowerChar c).toNat).map Char.ofNat).getD (lowerChar c) :=
    if_neg (Nat.not_lt.2 h)
  rw [hfold, isFolded]
  cases htwin : twins.lookup (lowerChar c).toNat with
  | none =>
    rw [Option.map_none, Option.getD_none, Bool.or_eq_true]
    exact (lowerChar_eq_or h).imp_right .inl
  | some n =>
    obtain ⟨before, after, hsplit, -⟩ := List.lookup_eq_some_iff.1 htwin
    have hmem : ((lowerChar c).toNat, n) ∈ twins := hsplit ▸ by simp
    rw [Option.map_some, Option.getD_some, Utf8.toNat_ofNat (twin_lt _ hmem),
      Bool.or_eq_true]
    exact .inr (.inr (List.any_eq_true.2 ⟨_, hmem, decide_eq_true rfl⟩))

/-! ## Symbols and blanks -/

/-- A character that has no case, and that is none of any other character. -/
def IsCaseless (d : Char) : Prop :=
  fold d = d ∧ isFolded d.toNat = false ∧ (d.toNat < 65 ∨ 122 < d.toNat)

instance : Decidable (IsCaseless d) := inferInstanceAs (Decidable (_ ∧ _ ∧ _))

/-- A character without a case is the same letter as itself only. -/
theorem sameLetter_iff_eq (hd : IsCaseless d) : sameLetter a d = true ↔ a = d := by
  obtain ⟨hfold, hfolded, hlower⟩ := hd
  rw [sameLetter, hfold, beq_iff_eq]
  refine ⟨fun h => ?_, fun h => h ▸ hfold⟩
  rcases Nat.lt_or_ge a.toNat 128 with ha | ha
  · rw [fold_of_lt ha] at h
    exact (Ascii.toLower_eq_iff hlower).1 h
  · rcases fold_eq_or ha with hself | hother
    · exact hself.symm.trans h
    · rw [h, hfolded] at hother
      cases hother

/-- The code points of all blanks. -/
def blankPoints : List Nat := [
  9, 10, 11, 12, 13, 28, 29, 30, 31, 32, 0x85, 0xA0, 0x1680, 0x2000, 0x2001, 0x2002, 0x2003, 0x2004,
  0x2005, 0x2006, 0x2007, 0x2008, 0x2009, 0x200A, 0x2028, 0x2029, 0x202F, 0x205F, 0x3000]

theorem mem_blankPoints (h : isBlank c = true) : c.toNat ∈ blankPoints := by
  simp only [isBlank, Bool.or_eq_true, Bool.and_eq_true, decide_eq_true_iff] at h
  simp only [blankPoints, List.mem_cons, List.not_mem_nil]
  omega

/-- No blank has a case. -/
theorem isCaseless_of_isBlank (h : isBlank c = true) : IsCaseless c := by
  have hpoints : ∀ n ∈ blankPoints, IsCaseless (Char.ofNat n) := by decide +kernel
  have hc := hpoints c.toNat (mem_blankPoints h)
  rwa [Char.ofNat_toNat] at hc

/-! ## Letters of ASCII -/

/-- The ASCII letters that no character beyond ASCII folds to. They are all but `i`, `k` and `s`. -/
def IsPlain (a : Char) : Prop := a.toNat < 128 ∧ isFolded a.toLower.toNat = false

instance : Decidable (IsPlain a) := inferInstanceAs (Decidable (_ ∧ _))

/-- The same letter as a plain one is in ASCII. -/
theorem lt_of_sameLetter (ha : IsPlain a) (h : sameLetter a c = true) : c.toNat < 128 := by
  obtain ⟨hlt, hfolded⟩ := ha
  rw [sameLetter, fold_of_lt hlt, beq_iff_eq] at h
  by_contra hc
  rcases fold_eq_or (Nat.not_lt.1 hc) with hself | hother
  · have hlower := Ascii.toNat_toLower a
    rw [h, hself] at hlower
    split at hlower <;> omega
  · rw [← h, hfolded] at hother
    cases hother

/-- A keyword of plain letters is spelled in ASCII. -/
theorem map_toLower_of_sameLetters (hk : ∀ a ∈ k, IsPlain a)
    (h : List.Forall₂ (fun a c => sameLetter a c = true) k q) :
    q.map Char.toLower = k.map Char.toLower := by
  induction h with
  | nil => rfl
  | @cons a c k q hac _ ih =>
    have ha := hk a List.mem_cons_self
    have hlower := (sameLetter_iff ha.1 (lt_of_sameLetter ha hac)).1 hac
    rw [List.map_cons, List.map_cons, hlower, ih fun b hb => hk b (List.mem_cons_of_mem a hb)]

end TablePackage.Unicode
