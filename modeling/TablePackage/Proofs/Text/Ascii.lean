import Mathlib.Tactic.Common
import TablePackage.Proofs.Text.Reading
import TablePackage.Text.Ascii

/-!
# Reading ASCII

Which numbers the characters of a class have, and what the readers of `TablePackage.Ascii` take
off: a keyword in any letter case (`Spells`), one character, blanks (`Blanks`), or a word
(`IsName`).
-/

namespace TablePackage.Ascii

variable {c d : Char} {b k q t r w : Text}

/-! ## Characters -/

/-- Lower case moves the capital letters, and nothing else. -/
theorem toNat_toLower (c : Char) :
    c.toLower.toNat = if 65 ≤ c.toNat ∧ c.toNat ≤ 90 then c.toNat + 32 else c.toNat := by
  have hle : (c.val ≥ 'A'.val ∧ c.val ≤ 'Z'.val) ↔ 65 ≤ c.toNat ∧ c.toNat ≤ 90 := by
    rw [ge_iff_le, UInt32.le_iff_toNat_le, UInt32.le_iff_toNat_le]
    rfl
  unfold Char.toLower
  by_cases h : c.val ≥ 'A'.val ∧ c.val ≤ 'Z'.val
  · rw [dif_pos h, if_pos (hle.1 h)]
    have := hle.1 h
    change (c.val + 32).toNat = c.toNat + 32
    rw [UInt32.toNat_add]
    change (c.toNat + 32) % 2 ^ 32 = c.toNat + 32
    omega
  · rw [dif_neg h, if_neg fun h' => h (hle.2 h')]

theorem isBlank_iff : isBlank c = true ↔ c.toNat = 32 ∨ 9 ≤ c.toNat ∧ c.toNat ≤ 13 := by
  rw [isBlank, Bool.or_eq_true, Bool.and_eq_true, decide_eq_true_iff, decide_eq_true_iff,
    decide_eq_true_iff]

theorem isWord_iff :
    isWord c = true ↔ 97 ≤ c.toNat ∧ c.toNat ≤ 122 ∨ 65 ≤ c.toNat ∧ c.toNat ≤ 90 ∨
      48 ≤ c.toNat ∧ c.toNat ≤ 57 ∨ c.toNat = 95 := by
  have hunderscore : c = '_' ↔ c.toNat = 95 :=
    ⟨fun h => by rw [h]; rfl, fun h => Char.toNat_inj.1 h⟩
  have hupper : c.isUpper = true ↔ 65 ≤ c.toNat ∧ c.toNat ≤ 90 := by
    change decide (c.val ≥ 'A'.val ∧ c.val ≤ 'Z'.val) = true ↔ _
    rw [decide_eq_true_iff, ge_iff_le, UInt32.le_iff_toNat_le, UInt32.le_iff_toNat_le]
    rfl
  have hlower : c.isLower = true ↔ 97 ≤ c.toNat ∧ c.toNat ≤ 122 := by
    change (decide (c.val ≥ 'a'.val) && decide (c.val ≤ 'z'.val)) = true ↔ _
    rw [Bool.and_eq_true, decide_eq_true_iff, decide_eq_true_iff, ge_iff_le,
      UInt32.le_iff_toNat_le, UInt32.le_iff_toNat_le]
    rfl
  have hdigit : c.isDigit = true ↔ 48 ≤ c.toNat ∧ c.toNat ≤ 57 := by
    change (decide (c.val ≥ '0'.val) && decide (c.val ≤ '9'.val)) = true ↔ _
    rw [Bool.and_eq_true, decide_eq_true_iff, decide_eq_true_iff, ge_iff_le,
      UInt32.le_iff_toNat_le, UInt32.le_iff_toNat_le]
    rfl
  change (c.isUpper || c.isLower || c.isDigit || decide (c = '_')) = true ↔ _
  rw [Bool.or_eq_true, Bool.or_eq_true, Bool.or_eq_true, hupper, hlower, hdigit,
    decide_eq_true_iff, hunderscore]
  omega

theorem isBlank_toLower (c : Char) : isBlank c.toLower = isBlank c := by
  rw [Bool.eq_iff_iff, isBlank_iff, isBlank_iff, toNat_toLower]
  split <;> omega

/-- A character that is no letter is the lower case of itself only. -/
theorem toLower_eq_iff (hd : d.toNat < 65 ∨ 122 < d.toNat) : c.toLower = d ↔ c = d := by
  rw [← Char.toNat_inj, ← Char.toNat_inj, toNat_toLower]
  split <;> omega

/-! ## Blanks and words -/

/-- A run of blanks, which may be empty. -/
def Blanks (b : Text) : Prop := ∀ c ∈ b, isBlank c = true

instance : Decidable (Blanks b) := inferInstanceAs (Decidable (∀ c ∈ b, isBlank c = true))

/-- A run of word characters, which may be empty. -/
def Letters (w : Text) : Prop := ∀ c ∈ w, isWord c = true

instance : Decidable (Letters w) := inferInstanceAs (Decidable (∀ c ∈ w, isWord c = true))

/-- A non-empty run of word characters. -/
def IsName (w : Text) : Prop := w ≠ [] ∧ ∀ c ∈ w, isWord c = true

instance : Decidable (IsName w) :=
  inferInstanceAs (Decidable (w ≠ [] ∧ ∀ c ∈ w, isWord c = true))

theorem Letters.append {u : Text} (hu : Letters u) (hw : Letters w) : Letters (u ++ w) :=
  List.forall_mem_append.2 ⟨hu, hw⟩

theorem IsName.letters (hw : IsName w) : Letters w := hw.2

/-- A name with letters in front of it is a name. -/
theorem Letters.append_name {u : Text} (hu : Letters u) (hw : IsName w) : IsName (u ++ w) :=
  ⟨List.append_ne_nil_of_right_ne_nil u hw.1, hu.append hw.letters⟩

/-- So is one with letters behind it. -/
theorem IsName.append_letters {u : Text} (hu : IsName u) (hw : Letters w) : IsName (u ++ w) :=
  ⟨List.append_ne_nil_of_left_ne_nil hu.1 w, hu.letters.append hw⟩

/-- What is no blank does not stand in a run of blanks. -/
theorem Blanks.not_mem (hb : Blanks b) (hd : isBlank d = false) : d ∉ b := fun hmem => by
  rw [hb d hmem] at hd
  cases hd

/-- What is no word character does not stand in a word. -/
theorem Letters.not_mem (hw : Letters w) (hd : isWord d = false) : d ∉ w := fun hmem => by
  rw [hw d hmem] at hd
  cases hd

theorem IsName.not_mem (hw : IsName w) (hd : isWord d = false) : d ∉ w :=
  hw.letters.not_mem hd

/-- Blanks are skipped up to what is none. -/
theorem skipBlanks_append (hb : Blanks b) (hr : ∀ c ∈ r.head?, isBlank c = false) :
    skipBlanks (b ++ r) = r :=
  Text.dropWhile_append_stop hb hr

/-- Blanks are skipped up to a symbol. -/
theorem skipBlanks_append_cons (hb : Blanks b) (hc : isBlank c = false) :
    skipBlanks (b ++ c :: r) = c :: r :=
  skipBlanks_append hb (Text.forall_head?_cons hc r)

/-- A text starts with the blanks that are skipped. -/
theorem exists_blanks (t : Text) : ∃ b, Blanks b ∧ t = b ++ skipBlanks t :=
  ⟨t.takeWhile isBlank, Text.forall_mem_takeWhile isBlank t, t.takeWhile_append_dropWhile.symm⟩

theorem head?_skipBlanks (t : Text) : ∀ c ∈ (skipBlanks t).head?, isBlank c = false :=
  Text.head?_dropWhile isBlank t

/-- The word at the start of a text is read up to what is no word character. -/
theorem word?_eq_some_iff :
    word? t = some (w, r) ↔ t = w ++ r ∧ IsName w ∧ ∀ c ∈ r.head?, isWord c = false := by
  rw [word?, Text.run?_eq_some_iff, IsName, and_assoc]

/-- A word is read up to a symbol. -/
theorem word?_append_cons (hw : IsName w) (hc : isWord c = false) :
    word? (w ++ c :: r) = some (w, c :: r) :=
  word?_eq_some_iff.2 ⟨rfl, hw, Text.forall_head?_cons hc r⟩

theorem char?_eq_some_iff : char? c t = some r ↔ t = c :: r := by
  cases t with
  | nil => simp [char?]
  | cons d t =>
    rw [char?, Option.ite_none_right_eq_some, Option.some.injEq, List.cons.injEq]

@[simp] theorem char?_cons_self (c : Char) (t : Text) : char? c (c :: t) = some t :=
  char?_eq_some_iff.2 rfl

/-! ## Keywords -/

/-- `q` is the keyword `k` in some letter case. -/
def Spells (k q : Text) : Prop := q.map Char.toLower = k

instance : Decidable (Spells k q) := inferInstanceAs (Decidable (q.map Char.toLower = k))

/-- A keyword without blanks has none in any letter case. -/
theorem Spells.isBlank_eq_false (h : Spells k q) (hk : ∀ c ∈ k, isBlank c = false) :
    ∀ c ∈ q, isBlank c = false := fun c hc => by
  rw [← isBlank_toLower]
  exact hk _ (h ▸ List.mem_map_of_mem hc)

/-- A keyword without a symbol has it in no letter case. -/
theorem Spells.not_mem (h : Spells k q) (hd : d.toNat < 65 ∨ 122 < d.toNat) (hk : d ∉ k) :
    d ∉ q := fun hmem =>
  hk (h ▸ List.mem_map.2 ⟨d, hmem, (toLower_eq_iff hd).2 rfl⟩)

/-- A keyword is read where it is spelled. -/
theorem keyword?_eq_some_iff : keyword? k t = some r ↔ ∃ q, Spells k q ∧ t = q ++ r := by
  have hspells : ∀ q, List.Forall₂ (fun a c => (a == Char.toLower c) = true) k q ↔ Spells k q := by
    intro q
    rw [Spells, eq_comm, ← List.forall₂_eq_eq_eq, List.forall₂_map_right_iff]
    simp only [beq_iff_eq]
  simp only [keyword?, Text.after?_eq_some_iff, hspells]

theorem keyword?_append (h : Spells k q) : keyword? k (q ++ r) = some r :=
  keyword?_eq_some_iff.2 ⟨q, h, rfl⟩

end TablePackage.Ascii
