import TablePackage.Proofs.Text.Unicode
import TablePackage.Routine

/-!
# Reading the text of a package

What the readers of `TablePackage.Routine` take off a text with ASCII characters. There a word
ends where a character stands that is none of its kind (`Stops`), and a keyword that is read in
front of such a place does not reach beyond it.

* `word?_append_eq_some`: where a keyword is read in front of the end of a word;
* `isOrAs?_eq_none`: a word other than `IS` and `AS` is none of them;
* `closing?_append`, `wordsBy_append`: what is cut off a text;
* `trim_append`, `upTo_append`: what is taken of a text.
-/

namespace TablePackage

open Ascii

namespace Routine

variable {b k n q r rest t u v w : Text} {c : Char}

/-! ## Words -/

/-- What may stand behind a word: nothing, or an ASCII character that is no word character. -/
def Stops (r : Text) : Prop := ∀ c ∈ r.head?, c.toNat < 128 ∧ Ascii.isWord c = false

instance : Decidable (Stops r) :=
  inferInstanceAs (Decidable (∀ c ∈ r.head?, c.toNat < 128 ∧ Ascii.isWord c = false))

theorem Stops.isWord_eq_false (h : Stops r) : ∀ c ∈ r.head?, Unicode.isWord c = false := by
  intro c hc
  obtain ⟨hlt, hword⟩ := h c hc
  rw [Unicode.isWord_of_lt hlt, hword]

theorem stops_cons (h : c.toNat < 128 ∧ Ascii.isWord c = false) : Stops (c :: r) :=
  Text.forall_head?_cons h r

/-- A keyword is read where it stands as it is. -/
theorem word?_append (k r : Text) : word? k (k ++ r) = some r :=
  Text.after?_append (List.forall₂_same.2 fun c _ => Unicode.sameLetter_self c)

/-- Each character of a text that spells a keyword is a letter of the keyword. -/
theorem exists_sameLetter (h : List.Forall₂ (fun a c => Unicode.sameLetter a c = true) k q)
    (hc : c ∈ q) : ∃ a ∈ k, Unicode.sameLetter a c = true := by
  obtain ⟨u, v, rfl⟩ := List.append_of_mem hc
  obtain ⟨a, k', hac, _, hk'⟩ :=
    List.forall₂_cons_right_iff.1 (List.forall₂_drop_append k u (c :: v) h)
  exact ⟨a, List.mem_of_mem_drop (hk' ▸ List.mem_cons_self), hac⟩

/-- A keyword that is read in front of the end of a word does not reach beyond it. -/
theorem word?_append_eq_some (hk : Letters k) (hr : Stops r) (h : word? k (w ++ r) = some rest) :
    ∃ q w', w = q ++ w' ∧ rest = w' ++ r ∧
      List.Forall₂ (fun a c => Unicode.sameLetter a c = true) k q := by
  obtain ⟨q, hq, heq⟩ := Text.after?_eq_some_iff.1 h
  rcases List.append_eq_append_iff.1 heq with ⟨x, rfl, hx⟩ | ⟨x, rfl, rfl⟩
  · cases x with
    | nil => exact ⟨w, [], by rw [List.append_nil], by rw [hx]; rfl, by simpa using hq⟩
    | cons c x =>
      -- The keyword has no character that may stand behind a word.
      exfalso
      obtain ⟨hlt, hword⟩ := hr c (by rw [hx]; rfl)
      obtain ⟨a, ha, hac⟩ := exists_sameLetter hq (List.mem_append_right w List.mem_cons_self)
      rw [Unicode.sameLetter_iff (lt_of_isWord (hk a ha)) hlt] at hac
      rw [isWord_of_toLower_eq (hk a ha) hac] at hword
      cases hword
  · exact ⟨q, x, rfl, rfl, hq⟩

/-- No keyword is read where a word ends. -/
theorem word?_eq_none (hk : IsName k) (hr : Stops r) : word? k r = none := by
  by_contra h
  obtain ⟨rest, h⟩ := Option.ne_none_iff_exists'.1 h
  obtain ⟨q, w', hq, _, hkq⟩ := word?_append_eq_some (w := []) hk.letters hr h
  obtain ⟨rfl, -⟩ := List.append_eq_nil_iff.1 hq.symm
  exact hk.1 (List.forall₂_nil_right_iff.1 hkq)

/-- A word that spells a keyword has its lower case. -/
theorem map_toLower_eq (hk : Letters k) (hw : Letters w)
    (h : List.Forall₂ (fun a c => Unicode.sameLetter a c = true) k w) :
    k.map Char.toLower = w.map Char.toLower := by
  induction h with
  | nil => rfl
  | @cons a c k w hac _ ih =>
    have hlower := (Unicode.sameLetter_iff (lt_of_isWord (hk a List.mem_cons_self))
      (lt_of_isWord (hw c List.mem_cons_self))).1 hac
    rw [List.map_cons, List.map_cons, hlower, ih (fun d hd => hk d (List.mem_cons_of_mem a hd))
      fun d hd => hw d (List.mem_cons_of_mem c hd)]

/-- Two names are the same, apart from the letter case. -/
def SameName (n t : Text) : Prop := n.map Char.toLower = t.map Char.toLower

instance : Decidable (SameName n t) :=
  inferInstanceAs (Decidable (n.map Char.toLower = t.map Char.toLower))

/-- A keyword is read where it stands in another letter case. -/
theorem word?_append_of_sameName (hk : Letters k) (hw : Letters w) (h : SameName k w) (r : Text) :
    word? k (w ++ r) = some r := by
  have hlower : List.Forall₂ (fun a c => Char.toLower a = Char.toLower c) k w := by
    rw [SameName, ← List.forall₂_eq_eq_eq, List.forall₂_map_left_iff,
      List.forall₂_map_right_iff] at h
    exact h
  refine Text.after?_append (List.forall₂_iff_zip.2 ⟨hlower.length_eq, fun {a c} hac => ?_⟩)
  obtain ⟨ha, hc⟩ := List.of_mem_zip hac
  exact (Unicode.sameLetter_iff (lt_of_isWord (hk a ha)) (lt_of_isWord (hw c hc))).2
    (List.forall₂_zip hlower hac)

/-- A name is read up to its end. -/
theorem name?_append (hw : IsName w) (hr : Stops r) : name? (w ++ r) = some (w, r) :=
  Text.run?_append hw.1 (fun c hc => Unicode.isWord_of_isWord (hw.2 c hc)) hr.isWord_eq_false

/-- No name is read where no word character stands. -/
theorem name?_eq_none (hr : Stops r) : name? r = none := Text.run?_eq_none hr.isWord_eq_false

/-! ## Gaps and symbols -/

/-- A non-empty run of blanks. -/
def IsGap (b : Text) : Prop := b ≠ [] ∧ Blanks b

instance : Decidable (IsGap b) := inferInstanceAs (Decidable (b ≠ [] ∧ Blanks b))

/-- An ASCII character that is neither a word character nor a blank. -/
def IsSymbol (c : Char) : Prop :=
  (c.toNat < 128 ∧ Ascii.isWord c = false) ∧ Unicode.isBlank c = false

instance : Decidable (IsSymbol c) :=
  inferInstanceAs (Decidable ((c.toNat < 128 ∧ Ascii.isWord c = false) ∧ Unicode.isBlank c = false))

/-- A word ends where a gap follows. -/
theorem IsGap.stops (hb : IsGap b) : Stops (b ++ r) := by
  obtain ⟨c, b, rfl⟩ := List.exists_cons_of_ne_nil hb.1
  exact stops_cons (isWord_of_isBlank (hb.2 c List.mem_cons_self))

theorem IsSymbol.stops (hc : IsSymbol c) : Stops (c :: r) := stops_cons hc.1

/-- Blanks are skipped up to what is none. -/
theorem skipBlanks_append (hb : Blanks b) (hr : ∀ c ∈ r.head?, Unicode.isBlank c = false) :
    skipBlanks (b ++ r) = r :=
  Text.dropWhile_append_stop hb.unicode hr

theorem skipBlanks_eq_self (hr : ∀ c ∈ r.head?, Unicode.isBlank c = false) : skipBlanks r = r :=
  skipBlanks_append (b := []) (List.forall_mem_nil _) hr

theorem skipBlanks_symbol (hc : IsSymbol c) : skipBlanks (c :: r) = c :: r :=
  skipBlanks_eq_self (Text.forall_head?_cons hc.2 r)

theorem skipBlanks_skipBlanks (t : Text) : skipBlanks (skipBlanks t) = skipBlanks t :=
  skipBlanks_eq_self (Text.head?_dropWhile Unicode.isBlank t)

/-- A gap that has to stand somewhere is read up to what is no blank. -/
theorem blanks?_append (hb : IsGap b) (hr : ∀ c ∈ r.head?, Unicode.isBlank c = false) :
    blanks? (b ++ r) = some r := by
  rw [blanks?, Text.run?_append hb.1 hb.2.unicode hr]
  rfl

theorem blanks?_eq_none (hr : ∀ c ∈ r.head?, Unicode.isBlank c = false) : blanks? r = none := by
  rw [blanks?, Text.run?_eq_none hr]
  rfl

/-- A word does not start with a blank. -/
theorem head?_name (hw : IsName w) : ∀ c ∈ (w ++ r).head?, Unicode.isBlank c = false := by
  obtain ⟨d, w, rfl⟩ := List.exists_cons_of_ne_nil hw.1
  exact Text.forall_head?_cons (Unicode.isBlank_of_isWord (hw.2 d List.mem_cons_self)) _

/-- A keyword is read with the blank between it and a word. -/
theorem keyword?_append (k : Text) (hw : IsName w) (r : Text) :
    keyword? k (k ++ (" " ++ (w ++ r))) = some (w ++ r) := by
  rw [keyword?, word?_append, Option.bind_some, blanks?_append (by decide) (head?_name hw)]

/-! ## `IS` and `AS` -/

/-- A word is `IS` or `AS`, in any letter case. -/
def IsOrAs (w : Text) : Prop := w.map Char.toLower = "is" ∨ w.map Char.toLower = "as"

instance : Decidable (IsOrAs w) :=
  inferInstanceAs (Decidable (w.map Char.toLower = "is" ∨ w.map Char.toLower = "as"))

/-- `IS` is read where it stands, if the word ends there. -/
theorem isOrAs?_is (hr : Stops r) : isOrAs? ("IS" ++ r) = some r := by
  have hstop : (!r.head?.any Unicode.isWord) = true := by
    cases h : r.head? with
    | none => rfl
    | some c => rw [Option.any_some, hr.isWord_eq_false c h]; rfl
  have has : word? "AS" ("IS" ++ r) = none := rfl
  rw [isOrAs?, wholeWord?, has, Option.filter_none, Option.none_or, wholeWord?, word?_append,
    Option.filter_some, if_pos hstop]

/-- A whole word that is read is the word that stands there. -/
theorem wholeWord?_eq_some (hk : Letters k) (hw : Letters w) (hr : Stops r)
    (h : wholeWord? k (w ++ r) = some rest) : k.map Char.toLower = w.map Char.toLower := by
  obtain ⟨hread, hstop⟩ := Option.filter_eq_some_iff.1 h
  obtain ⟨q, w', rfl, rfl, hq⟩ := word?_append_eq_some hk hr hread
  cases w' with
  | nil =>
    rw [List.append_nil] at hw ⊢
    exact map_toLower_eq hk hw hq
  | cons c w' =>
    have hc := Unicode.isWord_of_isWord (hw c (List.mem_append_right q List.mem_cons_self))
    rw [List.cons_append, List.head?_cons, Option.any_some, hc] at hstop
    cases hstop

/-- A word other than `IS` and `AS` is none of them. -/
theorem isOrAs?_eq_none (hw : Letters w) (hne : ¬IsOrAs w) (hr : Stops r) :
    isOrAs? (w ++ r) = none := by
  rw [isOrAs?, Option.or_eq_none_iff]
  constructor
  · by_contra h
    obtain ⟨rest, h⟩ := Option.ne_none_iff_exists'.1 h
    exact hne (.inr (wholeWord?_eq_some (by decide) hw hr h).symm)
  · by_contra h
    obtain ⟨rest, h⟩ := Option.ne_none_iff_exists'.1 h
    exact hne (.inl (wholeWord?_eq_some (by decide) hw hr h).symm)

/-! ## Cutting -/

/-- Up to the parenthesis that closes, no other one may stand. -/
theorem closing?_append (hopen : '(' ∉ u) (hclose : ')' ∉ u) :
    closing? 0 (u ++ ')' :: v) = some (u, v) := by
  induction u with
  | nil => rfl
  | cons c u ih =>
    rw [List.mem_cons, not_or] at hopen hclose
    rw [List.cons_append, closing?, if_neg (Ne.symm hclose.1), if_neg (Ne.symm hopen.1)]
    dsimp only
    rw [ih hopen.2 hclose.2]
    rfl

theorem wordsBy_blank (hc : Unicode.isBlank c = true) (t : Text) :
    Text.wordsBy Unicode.isBlank (c :: t) = Text.wordsBy Unicode.isBlank t := by
  rw [Text.wordsBy.eq_def]
  exact if_pos hc

/-- Blanks of any script in front do not matter for the words of a text. -/
theorem wordsBy_space (hb : ∀ c ∈ b, Unicode.isBlank c = true) (t : Text) :
    Text.wordsBy Unicode.isBlank (b ++ t) = Text.wordsBy Unicode.isBlank t := by
  induction b with
  | nil => rfl
  | cons c b ih =>
    obtain ⟨hc, hb⟩ := List.forall_mem_cons.1 hb
    rw [List.cons_append, wordsBy_blank hc, ih hb]

/-- Nor do those of ASCII. -/
theorem wordsBy_blanks (hb : Blanks b) (t : Text) :
    Text.wordsBy Unicode.isBlank (b ++ t) = Text.wordsBy Unicode.isBlank t :=
  wordsBy_space hb.unicode t

/-- A word goes on to the next blank. -/
theorem wordsBy_append (hne : w ≠ []) (hw : ∀ c ∈ w, Unicode.isBlank c = false)
    (hr : ∀ c ∈ r.head?, Unicode.isBlank c = true) :
    Text.wordsBy Unicode.isBlank (w ++ r) = w :: Text.wordsBy Unicode.isBlank r := by
  induction w with
  | nil => exact absurd rfl hne
  | cons c w ih =>
    have hc : ¬Unicode.isBlank c = true := by rw [hw c List.mem_cons_self]; decide
    cases w with
    | nil =>
      cases r with
      | nil =>
        rw [List.append_nil, Text.wordsBy.eq_def]
        exact if_neg hc
      | cons d r =>
        rw [List.singleton_append, Text.wordsBy.eq_def]
        dsimp only
        rw [if_neg hc, if_pos (hr d rfl)]
    | cons d w =>
      have hd : ¬Unicode.isBlank d = true := by
        rw [hw d (List.mem_cons_of_mem c List.mem_cons_self)]; decide
      have hword := ih (List.cons_ne_nil d w) fun e he => hw e (List.mem_cons_of_mem c he)
      rw [List.cons_append] at hword
      rw [List.cons_append, List.cons_append, Text.wordsBy.eq_def]
      dsimp only
      rw [if_neg hc, if_neg hd, hword]

/-! ## Taking -/

/-- What is read of a text is what stands in front of the rest. -/
theorem upTo_append (u v : Text) : upTo v (u ++ v) = u := by
  rw [upTo, List.length_append, Nat.add_sub_cancel, List.take_left]

/-- Blanks in front of a text are taken off. -/
theorem trim_append (hb : Blanks b) (t : Text) : trim (b ++ t) = trim t := by
  rw [trim, Text.trimBy, List.dropWhile_append_of_pos hb.unicode]
  rfl

end Routine

end TablePackage
