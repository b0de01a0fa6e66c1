import Mathlib.Data.Nat.Digits.Defs
import TablePackage.Number.Literal
import TablePackage.Proofs.Text.Letters

/-!
# Written integers

How an integer may be written in decimal: with White_Space around it, a sign, and digits of any
script, which single underscores may group, at most 4300 of them. A text is read as an integer
exactly if it is written so.

* `Literal.isBlank_iff`: the blanks around a number;
* `Literal.digitValues?_eq_some_iff`: the digits that are read;
* `Literal.int?_eq_some_iff`: which texts are integers, and which ones;
* `Literal.int?_ofNat`: a number is read back from its decimal digits.
-/

namespace TablePackage

variable {b b' s t u w : Text} {c : Char} {d : Nat} {ds : List Nat} {n : Int} {negative : Bool}

/-! ## Blanks at the ends -/

namespace Text

variable {blank : Char → Bool}

/-- Only blanks are taken off the ends of a text. -/
theorem exists_trimBy (blank : Char → Bool) (t : Text) : ∃ b b', (∀ c ∈ b, blank c) ∧
    (∀ c ∈ b', blank c) ∧ t = b ++ (trimBy blank t ++ b') := by
  refine ⟨t.takeWhile blank, ((t.dropWhile blank).reverse.takeWhile blank).reverse,
    forall_mem_takeWhile blank t, fun c hc => ?_, ?_⟩
  · exact forall_mem_takeWhile blank _ c (List.mem_reverse.1 hc)
  · rw [trimBy, ← List.reverse_append, List.takeWhile_append_dropWhile, List.reverse_reverse,
      List.takeWhile_append_dropWhile]

/-- All blanks at the ends are taken off a text that has something else between them. -/
theorem trimBy_append (hb : ∀ c ∈ b, blank c) (hb' : ∀ c ∈ b', blank c) (hne : w ≠ [])
    (hhead : ∀ c ∈ w.head?, blank c = false) (hlast : ∀ c ∈ w.getLast?, blank c = false) :
    trimBy blank (b ++ (w ++ b')) = w := by
  have hfront : ∀ c ∈ (w ++ b').head?, blank c = false := by
    rwa [List.head?_append_of_ne_nil w hne]
  have hback : ∀ c ∈ w.reverse.head?, blank c = false := by rwa [List.head?_reverse]
  have hb'' : ∀ c ∈ b'.reverse, blank c := fun c hc => hb' c (List.mem_reverse.1 hc)
  rw [trimBy, dropWhile_append_stop hb hfront, List.reverse_append,
    dropWhile_append_stop hb'' hback, List.reverse_reverse]

end Text

namespace Literal

/-! ## Written integers -/

/-- The characters with the property White_Space. They are the blanks, but for the four characters
    of ASCII that separate information. -/
def IsWhiteSpace (c : Char) : Prop := Unicode.isBlank c = true ∧ ¬(28 ≤ c.toNat ∧ c.toNat ≤ 31)

/-- A sign, which may be left out: whether it is a minus, and how it is written. -/
inductive WrittenSign : Bool → Text → Prop
  | leftOut : WrittenSign false []
  | plus : WrittenSign false ['+']
  | minus : WrittenSign true ['-']

/-- Digits of any script, with single underscores between some of them. -/
inductive WrittenDigits : List Nat → Text → Prop
  | last {c : Char} {d : Nat} : Unicode.digit? c = some d → WrittenDigits [d] [c]
  | next {c : Char} {d : Nat} {ds : List Nat} {w : Text} :
    Unicode.digit? c = some d → WrittenDigits ds w → WrittenDigits (d :: ds) (c :: w)
  | grouped {c : Char} {d : Nat} {ds : List Nat} {w : Text} :
    Unicode.digit? c = some d → WrittenDigits ds w → WrittenDigits (d :: ds) (c :: '_' :: w)

/-- The integer with a sign and decimal digits, the first of which has the highest place. -/
def ofDigits (negative : Bool) (ds : List Nat) : Int :=
  let n : Nat := Nat.ofDigits 10 ds.reverse
  if negative then -n else n

/-- An integer of at most 4300 digits, with White_Space around it. -/
inductive WrittenInteger : Int → Text → Prop
  | mk {before s w after : Text} {negative : Bool} {ds : List Nat} :
    (∀ c ∈ before, IsWhiteSpace c) → WrittenSign negative s → WrittenDigits ds w →
    ds.length ≤ 4300 → (∀ c ∈ after, IsWhiteSpace c) →
    WrittenInteger (ofDigits negative ds) (before ++ (s ++ w ++ after))

/-! ## Characters -/

theorem isBlank_iff : isBlank c = true ↔ IsWhiteSpace c := by
  simp only [isBlank, IsWhiteSpace, Unicode.isBlank, Bool.or_eq_true, Bool.and_eq_true,
    decide_eq_true_iff]
  split
  · rw [Ascii.isBlank_iff]
    omega
  · simp only [Bool.or_eq_true, Bool.and_eq_true, decide_eq_true_iff]
    omega

/-- No digit is a blank. -/
theorem isBlank_of_digit? (h : Unicode.digit? c = some d) : isBlank c = false := by
  obtain ⟨z, hz, -⟩ := Option.map_eq_some_iff.1 h
  have hrange := List.find?_some hz
  simp only [Bool.and_eq_true, decide_eq_true_iff] at hrange
  have hzeros : ∀ z ∈ Unicode.zeros, ∀ n ∈ Unicode.blankPoints, ¬(z ≤ n ∧ n < z + 10) := by
    decide +kernel
  rw [Bool.eq_false_iff]
  intro hblank
  exact hzeros z (List.mem_of_find?_eq_some hz) _
    (Unicode.mem_blankPoints (isBlank_iff.1 hblank).1) hrange

/-- To the base ten, letters are no digits. -/
theorem digitIn?_ten (c : Char) : digitIn? 10 c = Unicode.digit? c := by
  unfold digitIn?
  cases h : Unicode.digit? c with
  | some d =>
    have := Unicode.digit?_lt h
    simp [Option.filter, this]
  | none =>
    dsimp only
    rw [Option.none_or]
    split
    · exact Option.filter_some_neg (by simp)
    · rfl

/-! ## Digits -/

theorem WrittenDigits.ne_nil (h : WrittenDigits ds w) : w ≠ [] := by
  cases h <;> exact List.cons_ne_nil _ _

/-- Written digits start with a digit. -/
theorem WrittenDigits.head? (h : WrittenDigits ds w) :
    ∀ c ∈ w.head?, ∃ d, Unicode.digit? c = some d := by
  intro c hc
  cases h <;> obtain rfl := Option.some.inj hc <;> exact ⟨_, by assumption⟩

/-- Written digits end with a digit. -/
theorem WrittenDigits.getLast? (h : WrittenDigits ds w) :
    ∀ c ∈ w.getLast?, ∃ d, Unicode.digit? c = some d := by
  induction h with
  | last hd =>
    intro c hc
    obtain rfl := Option.some.inj hc
    exact ⟨_, hd⟩
  | next _ hw ih =>
    rwa [← List.singleton_append, List.getLast?_append_of_ne_nil _ hw.ne_nil]
  | @grouped c _ _ w _ hw ih =>
    rwa [show c :: '_' :: w = [c, '_'] ++ w from rfl, List.getLast?_append_of_ne_nil _ hw.ne_nil]

/-- Digits are read as they are written. -/
theorem digitValues?_eq_some_iff : digitValues? 10 w = some ds ↔ WrittenDigits ds w := by
  have hmore : ∀ {c : Char} {w : Text} {ds : List Nat},
      (do return (← digitIn? 10 c) :: (← digitValues? 10 w)) = some ds ↔
        ∃ d es, Unicode.digit? c = some d ∧ digitValues? 10 w = some es ∧ d :: es = ds := by
    intro c w ds
    simp only [Option.bind_eq_bind, Option.bind_eq_some_iff, Option.pure_def, Option.some.injEq,
      digitIn?_ten, exists_and_left]
  induction w using digitValues?.induct generalizing ds with
  | case1 =>
    constructor
    · intro h
      cases h
    · intro h
      exact absurd rfl h.ne_nil
  | case2 c =>
    rw [digitValues?, digitIn?_ten, Option.map_eq_some_iff]
    constructor
    · rintro ⟨d, hd, rfl⟩
      exact .last hd
    · intro h
      cases h with
      | last hd => exact ⟨_, hd, rfl⟩
      | next _ hw => exact absurd rfl hw.ne_nil
  | case3 c w ih =>
    rw [digitValues?, hmore]
    constructor
    · rintro ⟨d, es, hd, hes, rfl⟩
      exact .grouped hd (ih.1 hes)
    · intro h
      cases h with
      | next _ hw =>
        obtain ⟨d, hd⟩ := hw.head? '_' rfl
        cases hd
      | grouped hd hw => exact ⟨_, _, hd, ih.2 hw, rfl⟩
  | case4 c w hne hgroup ih =>
    rw [digitValues?.eq_4 10 c w hne hgroup, hmore]
    constructor
    · rintro ⟨d, es, hd, hes, rfl⟩
      exact .next hd (ih.1 hes)
    · intro h
      cases h with
      | last _ => exact absurd rfl hne
      | next hd hw => exact ⟨_, _, hd, ih.2 hw, rfl⟩
      | grouped _ _ => exact absurd rfl (hgroup _)

/-- The digits in front of the first other character are among all digits. -/
theorem WrittenDigits.length_le (h : WrittenDigits ds w) :
    (w.takeWhile fun c => (digitIn? 10 c).isSome).length ≤ ds.length := by
  have hdigit : ∀ {c d}, Unicode.digit? c = some d → ∀ v : Text,
      ((c :: v).takeWhile fun c => (digitIn? 10 c).isSome).length =
        (v.takeWhile fun c => (digitIn? 10 c).isSome).length + 1 := by
    intro c d hd v
    rw [List.takeWhile_cons_of_pos (by rw [digitIn?_ten, hd]; rfl), List.length_cons]
  induction h with
  | last hd => rw [hdigit hd]; exact Nat.le_refl 1
  | next hd _ ih => rw [hdigit hd]; exact Nat.succ_le_succ ih
  | grouped hd _ _ => rw [hdigit hd]; exact Nat.succ_le_succ (Nat.zero_le _)

/-! ## Integers -/

/-- There is no blank in front of a sign with digits behind it. -/
theorem WrittenSign.isBlank_head? (hs : WrittenSign negative s) (hw : WrittenDigits ds w) :
    ∀ c ∈ (s ++ w).head?, isBlank c = false := by
  cases hs with
  | leftOut =>
    intro c hc
    obtain ⟨d, hd⟩ := hw.head? c hc
    exact isBlank_of_digit? hd
  | plus => exact Text.forall_head?_cons (by decide) _
  | minus => exact Text.forall_head?_cons (by decide) _

/-- A sign is taken off a text, if there is one. -/
theorem exists_sign (t : Text) : ∃ s, WrittenSign (sign t).1 s ∧ t = s ++ (sign t).2 := by
  unfold sign
  split
  · exact ⟨_, .minus, rfl⟩
  · exact ⟨_, .plus, rfl⟩
  · exact ⟨[], .leftOut, rfl⟩

/-- A sign is read in front of digits. -/
theorem sign_append (hs : WrittenSign negative s) (hw : WrittenDigits ds w) :
    sign (s ++ w) = (negative, w) := by
  cases hs with
  | plus => rfl
  | minus => rfl
  | leftOut =>
    rw [List.nil_append, sign.eq_def]
    split
    · obtain ⟨d, hd⟩ := hw.head? '-' rfl
      cases hd
    · obtain ⟨d, hd⟩ := hw.head? '+' rfl
      cases hd
    · rfl

/-- To the base ten, there is no mark of the base. -/
theorem skipMark_ten (t : Text) : skipMark 10 t = t := by
  unfold skipMark
  split
  · exact if_neg fun h => nomatch h.2
  · rfl

/-- Each digit is put behind those in front of it. -/
theorem number_eq_ofDigits (ds : List Nat) : number 10 ds = Nat.ofDigits 10 ds.reverse := by
  rw [Nat.ofDigits_eq_foldr, List.foldr_reverse, number]
  simp only [Nat.cast_id, Nat.mul_comm 10, Nat.add_comm]

/-- An integer is read if there are not too many digits behind its sign. -/
theorem int?_eq_some_iff_digits : int? t = some n ↔
    ∃ ds, WrittenDigits ds (sign (Text.trimBy isBlank t)).2 ∧ ds.length ≤ digitLimit ∧
      ofDigits (sign (Text.trimBy isBlank t)).1 ds = n := by
  rw [int?, integer]
  dsimp only
  rw [skipMark_ten]
  cases hds : digitValues? 10 (sign (Text.trimBy isBlank t)).2 with
  | none =>
    simp only [← digitValues?_eq_some_iff, hds]
    split <;> simp [Except.toOption]
  | some ds =>
    have hcount := (digitValues?_eq_some_iff.1 hds).length_le
    simp only [← digitValues?_eq_some_iff, hds, Option.some.injEq, exists_eq_left', true_and]
    by_cases hlimit : ds.length ≤ digitLimit
    · rw [if_neg (by omega), if_neg (by omega), number_eq_ofDigits]
      simp [Except.toOption, hlimit, ofDigits]
    · rw [if_pos (Nat.lt_of_not_le hlimit)]
      split <;> simp [Except.toOption, hlimit]

/-- An integer is read where one is written. -/
theorem int?_eq_some_iff : int? t = some n ↔ WrittenInteger n t := by
  rw [int?_eq_some_iff_digits]
  constructor
  · obtain ⟨before, after, hbefore, hafter, ht⟩ := Text.exists_trimBy isBlank t
    generalize Text.trimBy isBlank t = trimmed at ht ⊢
    rintro ⟨ds, hds, hlimit, rfl⟩
    obtain ⟨s, hs, hsign⟩ := exists_sign trimmed
    have hinteger := WrittenInteger.mk (fun c hc => isBlank_iff.1 (hbefore c hc)) hs hds hlimit
      fun c hc => isBlank_iff.1 (hafter c hc)
    rwa [← hsign, ← ht] at hinteger
  · rintro ⟨hbefore, hs, hw, hlimit, hafter⟩
    rename_i before s w after negative ds
    have htrim : Text.trimBy isBlank (before ++ (s ++ w ++ after)) = s ++ w := by
      refine Text.trimBy_append (fun c hc => isBlank_iff.2 (hbefore c hc))
        (fun c hc => isBlank_iff.2 (hafter c hc))
        (List.append_ne_nil_of_right_ne_nil s hw.ne_nil) (fun c hc => ?_) fun c hc => ?_
      · exact hs.isBlank_head? hw c hc
      · rw [List.getLast?_append_of_ne_nil s hw.ne_nil] at hc
        obtain ⟨d, hd⟩ := hw.getLast? c hc
        exact isBlank_of_digit? hd
    rw [htrim, sign_append hs hw]
    exact ⟨ds, hw, hlimit, rfl⟩

/-! ## Decimal digits -/

/-- The characters of a decimal form are digits of ASCII. -/
theorem digit?_of_isDigit (h : c.isDigit = true) : Unicode.digit? c = some (c.toNat - 48) := by
  obtain ⟨hlow, hhigh⟩ : 48 ≤ c.toNat ∧ c.toNat < 48 + 10 := by
    simp only [Char.isDigit, Bool.and_eq_true, decide_eq_true_iff, UInt32.le_iff_toNat_le] at h
    exact ⟨h.1, Nat.lt_succ_of_le h.2⟩
  rw [Unicode.digit?, Unicode.zeros, List.find?_cons_of_pos (by simp [hlow, hhigh])]
  rfl

theorem writtenDigits_map (hne : w ≠ []) (hw : ∀ c ∈ w, c.isDigit = true) :
    WrittenDigits (w.map fun c => c.toNat - 48) w := by
  induction w with
  | nil => exact absurd rfl hne
  | cons c w ih =>
    obtain ⟨hc, hw⟩ := List.forall_mem_cons.1 hw
    cases w with
    | nil => exact .last (digit?_of_isDigit hc)
    | cons e w => exact .next (digit?_of_isDigit hc) (ih (List.cons_ne_nil e w) hw)

/-- A number that has not too many decimal digits is read back from them. -/
theorem int?_ofNat {n : Nat} (h : (Text.ofNat n).length ≤ digitLimit) :
    int? (Text.ofNat n) = some (n : Int) := by
  have hdigits : ∀ c ∈ Text.ofNat n, c.isDigit = true := fun c hc =>
    Nat.isDigit_of_mem_toDigits (by decide) (by decide) hc
  have hwritten : WrittenDigits ((Text.ofNat n).map fun c => c.toNat - 48) (Text.ofNat n) :=
    writtenDigits_map Nat.toDigits_ne_nil hdigits
  have hvalue : number 10 ((Text.ofNat n).map fun c => c.toNat - 48) = n := by
    rw [number, List.foldl_map]
    simp only [Nat.mul_comm _ 10]
    exact Nat.ofDigitChars_ten_toDigits
  rw [int?_eq_some_iff]
  have hinteger : WrittenInteger (ofDigits false _) ([] ++ ([] ++ Text.ofNat n ++ [])) :=
    .mk (List.forall_mem_nil _) .leftOut hwritten (by rwa [List.length_map]) (List.forall_mem_nil _)
  rw [ofDigits, ← number_eq_ofDigits, hvalue] at hinteger
  simpa using hinteger

end Literal

end TablePackage
