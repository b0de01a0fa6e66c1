import TablePackage.Proofs.Routine.Contents
import TablePackage.Proofs.Text.Letters

/-!
# The grammar of packages

How the headers and ends of packages and procedures may be written in any text: keywords and
names in any letter case, blanks and word characters of all scripts. The readers of
`TablePackage.Routine` take off exactly what is written like that. The word `BODY` may be read in
two ways, as part of a header or as the name of a package; the first way is preferred
(`HeaderAt.preferred`).

* `packageHeader?_eq_some_iff`: the header of a package is read where it is written;
* `end?_eq_some_iff`: and so is the end that has a name;
* `header?_eq_some`: what a header of a procedure takes off.
-/

namespace TablePackage.Unicode

/-- A blank of any script is no word character. -/
theorem isWord_of_isBlank {c : Char} (h : isBlank c = true) : isWord c = false := by
  have hpoints : ∀ n ∈ blankPoints, isWord (Char.ofNat n) = false := by decide +kernel
  have hc := hpoints c.toNat (mem_blankPoints h)
  rwa [Char.ofNat_toNat] at hc

end TablePackage.Unicode

namespace TablePackage.Routine

variable {b k n q r s t u v w x y : Text} {a c d : Char} {p : PackageHeader}

/-! ## Words and blanks -/

/-- `q` is the word `k` in any letter case. -/
def SameLetters (k q : Text) : Prop :=
  List.Forall₂ (fun a c => Unicode.sameLetter a c = true) k q

/-- A non-empty run of blanks of any script. -/
def IsSpace (b : Text) : Prop := b ≠ [] ∧ ∀ c ∈ b, Unicode.isBlank c = true

/-- A non-empty run of word characters of any script. -/
def IsIdentifier (w : Text) : Prop := w ≠ [] ∧ ∀ c ∈ w, Unicode.isWord c = true

/-- A text that does not start with a blank. -/
def StartsFull (r : Text) : Prop := ∀ c ∈ r.head?, Unicode.isBlank c = false

/-- A text in front of which a word may end. -/
def EndsWord (r : Text) : Prop := ∀ c ∈ r.head?, Unicode.isWord c = false

/-- A character without a case stands in a word in any letter case only if it stands in the word. -/
theorem SameLetters.mem_of_isCaseless (h : SameLetters k q) (hd : Unicode.IsCaseless d)
    (hmem : d ∈ q) : d ∈ k := by
  obtain ⟨a, ha, had⟩ := exists_sameLetter h hmem
  rwa [← (Unicode.sameLetter_iff_eq hd).1 had]

/-- A word without blanks has none in any letter case. -/
theorem SameLetters.isBlank_eq_false (h : SameLetters k q)
    (hk : ∀ a ∈ k, Unicode.isBlank a = false) : ∀ c ∈ q, Unicode.isBlank c = false := by
  intro c hc
  by_contra hblank
  rw [Bool.not_eq_false] at hblank
  have hmem := h.mem_of_isCaseless (Unicode.isCaseless_of_isBlank hblank) hc
  rw [hk c hmem] at hblank
  cases hblank

theorem IsIdentifier.isBlank_eq_false (h : IsIdentifier w) :
    ∀ c ∈ w, Unicode.isBlank c = false := by
  intro c hc
  by_contra hblank
  rw [Bool.not_eq_false] at hblank
  have hword := Unicode.isWord_of_isBlank hblank
  rw [h.2 c hc] at hword
  cases hword

/-- A text starts full if a non-empty part without blanks does so. -/
theorem startsFull_append (hne : w ≠ []) (hw : ∀ c ∈ w, Unicode.isBlank c = false) (r : Text) :
    StartsFull (w ++ r) := by
  obtain ⟨c, w, rfl⟩ := List.exists_cons_of_ne_nil hne
  exact Text.forall_head?_cons (hw c List.mem_cons_self) _

theorem IsIdentifier.startsFull (h : IsIdentifier w) (r : Text) : StartsFull (w ++ r) :=
  startsFull_append h.1 h.isBlank_eq_false r

/-- A word ends where a space follows. -/
theorem IsSpace.endsWord (h : IsSpace b) (r : Text) : EndsWord (b ++ r) := by
  obtain ⟨c, b, rfl⟩ := List.exists_cons_of_ne_nil h.1
  exact Text.forall_head?_cons (Unicode.isWord_of_isBlank (h.2 c List.mem_cons_self)) _

/-! ## Readers -/

theorem word?_eq_some_iff : word? k t = some r ↔ ∃ q, SameLetters k q ∧ t = q ++ r :=
  Text.after?_eq_some_iff

theorem blanks?_eq_some_iff :
    blanks? t = some r ↔ ∃ b, IsSpace b ∧ t = b ++ r ∧ StartsFull r := by
  rw [blanks?, Option.map_eq_some_iff]
  constructor
  · rintro ⟨⟨b, r⟩, hrun, rfl⟩
    obtain ⟨ht, hne, hb, hr⟩ := Text.run?_eq_some_iff.1 hrun
    exact ⟨b, ⟨hne, hb⟩, ht, hr⟩
  · rintro ⟨b, ⟨hne, hb⟩, rfl, hr⟩
    exact ⟨(b, r), Text.run?_append hne hb hr, rfl⟩

theorem name?_eq_some_iff :
    name? t = some (w, r) ↔ t = w ++ r ∧ IsIdentifier w ∧ EndsWord r := by
  rw [name?, Text.run?_eq_some_iff, IsIdentifier, and_assoc]
  rfl

/-- Which of its ends a text has in front of the blanks that are skipped. -/
theorem exists_skipBlanks (t : Text) :
    ∃ b, (∀ c ∈ b, Unicode.isBlank c = true) ∧ t = b ++ skipBlanks t :=
  ⟨t.takeWhile Unicode.isBlank, Text.forall_mem_takeWhile _ t,
    t.takeWhile_append_dropWhile.symm⟩

theorem wholeWord?_eq_some_iff :
    wholeWord? k t = some r ↔ ∃ q, SameLetters k q ∧ t = q ++ r ∧ EndsWord r := by
  have hends : (!r.head?.any Unicode.isWord) = true ↔ EndsWord r := by
    cases h : r.head? <;> simp [EndsWord, h]
  rw [wholeWord?, Option.filter_eq_some_iff, word?_eq_some_iff, hends]
  constructor
  · rintro ⟨⟨q, hq, rfl⟩, hr⟩
    exact ⟨q, hq, rfl, hr⟩
  · rintro ⟨q, hq, rfl, hr⟩
    exact ⟨⟨q, hq, rfl⟩, hr⟩

/-- `IS` or `AS`, in any letter case. -/
def IsLink (q : Text) : Prop := SameLetters "IS" q ∨ SameLetters "AS" q

theorem IsLink.isBlank_eq_false (h : IsLink q) : ∀ c ∈ q, Unicode.isBlank c = false :=
  h.elim (·.isBlank_eq_false (by decide)) (·.isBlank_eq_false (by decide))

theorem IsLink.ne_nil (h : IsLink q) : q ≠ [] := by
  rintro rfl
  rcases h with h | h <;> cases h

/-- No word is read where one is written that starts with another letter. -/
theorem word?_eq_none_of_sameLetters {k' : Text} (hq : SameLetters (d :: k') q)
    (had : Unicode.fold a ≠ Unicode.fold d) (r : Text) : word? (a :: k) (q ++ r) = none := by
  cases hq with
  | @cons _ c _ q hc _ =>
    rw [word?, List.cons_append, Text.after?, if_neg]
    intro hac
    rw [Unicode.sameLetter, beq_iff_eq] at hac hc
    exact had (hac.trans hc.symm)

theorem isOrAs?_eq_some_iff :
    isOrAs? t = some r ↔ ∃ q, IsLink q ∧ t = q ++ r ∧ EndsWord r := by
  rw [isOrAs?, Option.or_eq_some_iff, wholeWord?_eq_some_iff, wholeWord?_eq_some_iff]
  constructor
  · rintro (⟨q, hq, ht, hr⟩ | ⟨-, q, hq, ht, hr⟩)
    · exact ⟨q, .inr hq, ht, hr⟩
    · exact ⟨q, .inl hq, ht, hr⟩
  · rintro ⟨q, hq | hq, rfl, hr⟩
    · have hnone : word? "AS" (q ++ r) = none := word?_eq_none_of_sameLetters hq (by decide) r
      exact .inr ⟨by rw [wholeWord?, hnone]; rfl, q, hq, rfl, hr⟩
    · exact .inl ⟨q, hq, rfl, hr⟩

/-! ## Keywords -/

/-- A keyword in any letter case, with blanks behind it. -/
inductive Keyword (k : Text) : Text → Prop
  | mk {q b : Text} : SameLetters k q → IsSpace b → Keyword k (q ++ b)

theorem keyword?_eq_some_iff :
    keyword? k t = some r ↔ ∃ w, Keyword k w ∧ t = w ++ r ∧ StartsFull r := by
  rw [keyword?, Option.bind_eq_some_iff]
  constructor
  · rintro ⟨s, hs, hr⟩
    obtain ⟨q, hq, rfl⟩ := word?_eq_some_iff.1 hs
    obtain ⟨b, hb, rfl, hfull⟩ := blanks?_eq_some_iff.1 hr
    exact ⟨q ++ b, .mk hq hb, (List.append_assoc ..).symm, hfull⟩
  · rintro ⟨w, ⟨hq, hb⟩, rfl, hr⟩
    rw [List.append_assoc]
    exact ⟨_, word?_eq_some_iff.2 ⟨_, hq, rfl⟩, blanks?_eq_some_iff.2 ⟨_, hb, rfl, hr⟩⟩

theorem Keyword.read (h : Keyword k w) (hr : StartsFull r) : keyword? k (w ++ r) = some r :=
  keyword?_eq_some_iff.2 ⟨w, h, rfl, hr⟩

theorem Keyword.startsFull (h : Keyword k w) (hne : k ≠ [])
    (hk : ∀ a ∈ k, Unicode.isBlank a = false) (r : Text) : StartsFull (w ++ r) := by
  obtain ⟨hq, hb⟩ := h
  rw [List.append_assoc]
  refine startsFull_append ?_ (hq.isBlank_eq_false hk) _
  rintro rfl
  exact hne (List.forall₂_nil_right_iff.1 hq)

/-! ## Packages -/

/-- How `CREATE PACKAGE` or `CREATE OR REPLACE PACKAGE` is written, with the blanks behind. -/
inductive WrittenOpening : Text → Prop
  | plain {u v : Text} : Keyword "CREATE" u → Keyword "PACKAGE" v → WrittenOpening (u ++ v)
  | replacing {u v w x : Text} : Keyword "CREATE" u → Keyword "OR" v → Keyword "REPLACE" w →
    Keyword "PACKAGE" x → WrittenOpening (u ++ (v ++ (w ++ x)))

/-- How the name of a package is written, with `IS` or `AS` behind it. -/
inductive WrittenName (n : Text) : Text → Prop
  | mk {b q : Text} : IsIdentifier n → IsSpace b → IsLink q → WrittenName n (n ++ (b ++ q))

/-- How the header of a package is written. -/
inductive WrittenHeader : PackageHeader → Text → Prop
  | specification {n u w : Text} : WrittenOpening u → WrittenName n w →
    WrittenHeader ⟨false, n⟩ (u ++ w)
  | body {n u v w : Text} : WrittenOpening u → Keyword "BODY" v → WrittenName n w →
    WrittenHeader ⟨true, n⟩ (u ++ (v ++ w))

theorem WrittenName.startsFull (h : WrittenName n w) (r : Text) : StartsFull (w ++ r) := by
  obtain ⟨hn, -, -⟩ := h
  rw [List.append_assoc]
  exact hn.startsFull _

theorem named?_eq_some_iff :
    named? t = some (n, r) ↔ ∃ w, WrittenName n w ∧ t = w ++ r ∧ EndsWord r := by
  simp only [named?, Option.bind_eq_bind, Option.bind_eq_some_iff, Option.pure_def,
    Option.some.injEq, Prod.mk.injEq, Prod.exists, blanks?_eq_some_iff, name?_eq_some_iff,
    isOrAs?_eq_some_iff]
  constructor
  · rintro ⟨n', s, ⟨rfl, hn, -⟩, s', ⟨b, hb, rfl, -⟩, r', ⟨q, hq, rfl, hr⟩, rfl, rfl⟩
    exact ⟨_, .mk hn hb hq, by simp only [List.append_assoc], hr⟩
  · rintro ⟨w, ⟨hn, hb, hq⟩, rfl, hr⟩
    rename_i b q
    refine ⟨n, b ++ (q ++ r), ⟨by simp only [List.append_assoc], hn, hb.endsWord _⟩, q ++ r,
      ⟨b, hb, rfl, startsFull_append hq.ne_nil hq.isBlank_eq_false r⟩, r, ⟨q, hq, rfl, hr⟩, rfl,
      rfl⟩

theorem opening?_eq_some_iff :
    opening? t = some r ↔ ∃ w, WrittenOpening w ∧ t = w ++ r ∧ StartsFull r := by
  rw [opening?, Option.bind_eq_bind, Option.bind_eq_some_iff]
  constructor
  · rintro ⟨s, hs, hr⟩
    obtain ⟨u, hu, ht, -⟩ := keyword?_eq_some_iff.1 hs
    obtain ⟨x, hx, hpackage, hfull⟩ := keyword?_eq_some_iff.1 hr
    cases hreplaced : (keyword? "OR" s).bind (keyword? "REPLACE") with
    | none =>
      rw [hreplaced, Option.getD_none] at hpackage
      exact ⟨u ++ x, .plain hu hx, by rw [ht, hpackage, List.append_assoc], hfull⟩
    | some s' =>
      rw [hreplaced, Option.getD_some] at hpackage
      obtain ⟨s₁, h₁, h₂⟩ := Option.bind_eq_some_iff.1 hreplaced
      obtain ⟨v, hv, hor, -⟩ := keyword?_eq_some_iff.1 h₁
      obtain ⟨w, hw, hreplace, -⟩ := keyword?_eq_some_iff.1 h₂
      refine ⟨_, .replacing hu hv hw hx, ?_, hfull⟩
      rw [ht, hor, hreplace, hpackage]
      simp only [List.append_assoc]
  · rintro ⟨w, hw, rfl, hr⟩
    cases hw with
    | @plain u v hu hv =>
      rw [List.append_assoc]
      refine ⟨v ++ r, hu.read (hv.startsFull (by decide) (by decide) r), ?_⟩
      -- `PACKAGE` is not read as `OR`.
      have hnone : keyword? "OR" (v ++ r) = none := by
        obtain @⟨q, b, hq, -⟩ := hv
        have hword : word? "OR" (q ++ (b ++ r)) = none :=
          word?_eq_none_of_sameLetters hq (by decide) _
        rw [List.append_assoc, keyword?, hword]
        rfl
      rw [hnone]
      exact hv.read hr
    | @replacing u v w x hu hv hw hx =>
      simp only [List.append_assoc]
      refine ⟨v ++ (w ++ (x ++ r)), hu.read (hv.startsFull (by decide) (by decide) _), ?_⟩
      rw [hv.read (hw.startsFull (by decide) (by decide) _), Option.bind_some,
        hw.read (hx.startsFull (by decide) (by decide) _), Option.getD_some]
      exact hx.read hr

/-- Behind the opening, a body is read if its header is written there. -/
theorem body?_eq_some_iff (hs : opening? t = some s) :
    (keyword? "BODY" s).bind named? = some (n, r) ↔
      ∃ w, WrittenHeader ⟨true, n⟩ w ∧ t = w ++ r ∧ EndsWord r := by
  rw [Option.bind_eq_some_iff]
  constructor
  · rintro ⟨s', hs', hr⟩
    obtain ⟨u, hu, rfl, -⟩ := opening?_eq_some_iff.1 hs
    obtain ⟨v, hv, rfl, -⟩ := keyword?_eq_some_iff.1 hs'
    obtain ⟨w, hw, rfl, hends⟩ := named?_eq_some_iff.1 hr
    exact ⟨_, .body hu hv hw, by simp only [List.append_assoc], hends⟩
  · rintro ⟨_, ⟨⟩, rfl, hr⟩
    rename_i u v w hu hv hw
    simp only [List.append_assoc] at hs
    rw [opening?_eq_some_iff.2 ⟨u, hu, rfl, hv.startsFull (by decide) (by decide) _⟩] at hs
    obtain rfl := Option.some.inj hs
    exact ⟨w ++ r, hv.read (hw.startsFull r), named?_eq_some_iff.2 ⟨w, hw, rfl, hr⟩⟩

/-- The header `p` stands at the start of `t`, and `r` follows it. -/
structure HeaderAt (p : PackageHeader) (t r : Text) : Prop where
  written : ∃ w, WrittenHeader p w ∧ t = w ++ r
  ends : EndsWord r
  /-- What can be read as the header of a body is no header of a specification. -/
  preferred : p.isBody = false → ∀ n w r', WrittenHeader ⟨true, n⟩ w → t = w ++ r' → ¬EndsWord r'

/-- The header of a package is read where it is written. -/
theorem packageHeader?_eq_some_iff : packageHeader? t = some (p, r) ↔ HeaderAt p t r := by
  rw [packageHeader?, Option.bind_eq_some_iff]
  constructor
  · rintro ⟨s, hs, hr⟩
    cases hread : (keyword? "BODY" s).bind named? with
    | some f =>
      rw [hread] at hr
      cases hr
      obtain ⟨w, hw, ht, hr⟩ := (body?_eq_some_iff hs).1 hread
      exact ⟨⟨w, hw, ht⟩, hr, fun h => by cases h⟩
    | none =>
      rw [hread, Option.map_eq_some_iff] at hr
      obtain ⟨⟨n, r⟩, hnamed, he⟩ := hr
      cases he
      obtain ⟨u, hu, rfl, -⟩ := opening?_eq_some_iff.1 hs
      obtain ⟨w, hw, rfl, hr⟩ := named?_eq_some_iff.1 hnamed
      refine ⟨⟨_, .specification hu hw, (List.append_assoc ..).symm⟩, hr, ?_⟩
      intro _ n' w' r' hw' ht hr'
      rw [(body?_eq_some_iff hs).2 ⟨w', hw', ht, hr'⟩] at hread
      cases hread
  · rintro ⟨⟨_, hw, ht⟩, hr, hpreferred⟩
    cases hw with
    | @specification n u w hu hw =>
      rw [List.append_assoc] at ht
      have hs := opening?_eq_some_iff.2 ⟨u, hu, ht, hw.startsFull r⟩
      refine ⟨w ++ r, hs, ?_⟩
      cases hread : (keyword? "BODY" (w ++ r)).bind named? with
      | none => exact Option.map_eq_some_iff.2 ⟨_, named?_eq_some_iff.2 ⟨w, hw, rfl, hr⟩, rfl⟩
      | some f =>
        obtain ⟨w', hw', ht', hr'⟩ := (body?_eq_some_iff hs).1 hread
        exact absurd hr' (hpreferred rfl _ w' _ hw' ht')
    | @body n u v w hu hv hw =>
      simp only [List.append_assoc] at ht
      have hs := opening?_eq_some_iff.2
        ⟨u, hu, ht, hv.startsFull (by decide) (by decide) (w ++ r)⟩
      refine ⟨v ++ (w ++ r), hs, ?_⟩
      rw [(body?_eq_some_iff hs).2 ⟨_, .body hu hv hw, by simp only [ht, List.append_assoc], hr⟩]

/-! ## Ends -/

/-- How the end that has the name `n` is written. -/
inductive WrittenEnd (n : Text) : Text → Prop
  | mk {v m b : Text} : Keyword "END" v → SameLetters n m → (∀ c ∈ b, Unicode.isBlank c = true) →
    WrittenEnd n (v ++ (m ++ (b ++ [';'])))

/-- An end that has a name is read where it is written. -/
theorem end?_eq_some_iff (hn : IsIdentifier n) : end? n t = some ((), r) ↔
    ∃ w, WrittenEnd n w ∧ t = w ++ r := by
  simp only [end?, Option.bind_eq_bind, Option.bind_eq_some_iff, keyword?_eq_some_iff,
    word?_eq_some_iff, Option.pure_def, Option.some.injEq, Prod.mk.injEq, true_and,
    exists_eq_right]
  constructor
  · rintro ⟨_, ⟨v, hv, rfl, -⟩, s, ⟨m, hm, rfl⟩, hr⟩
    obtain ⟨b, hb, hs⟩ := exists_skipBlanks s
    rw [char?_eq_some hr] at hs
    exact ⟨_, .mk hv hm hb, by simp only [hs, List.append_assoc, List.singleton_append]⟩
  · rintro ⟨_, @⟨v, m, b, hv, hm, hb⟩, rfl⟩
    have hne : m ≠ [] := by
      rintro rfl
      exact hn.1 (List.forall₂_nil_right_iff.1 hm)
    have hfull : StartsFull (m ++ (b ++ ';' :: r)) :=
      startsFull_append hne (hm.isBlank_eq_false hn.isBlank_eq_false) _
    refine ⟨_, ⟨v, hv, by simp only [List.append_assoc, List.singleton_append], hfull⟩, _,
      ⟨m, hm, rfl⟩, ?_⟩
    rw [skipBlanks, Text.dropWhile_append_stop hb (Text.forall_head?_cons (by decide) r), char?,
      if_pos rfl]

/-! ## Procedures -/

/-- How `PROCEDURE` and the name of a procedure are written. -/
inductive WrittenProcedure (n : Text) : Text → Prop
  | mk {v : Text} : Keyword "PROCEDURE" v → IsIdentifier n → WrittenProcedure n (v ++ n)

/-- A header of a procedure is read from its start on, and takes at least its name off. -/
theorem header?_eq_some {h : Header} (hh : header? t = some h) :
    h.text = t ∧ ∃ w x, WrittenProcedure h.name w ∧ t = w ++ (x ++ h.rest) ∧
      EndsWord (x ++ h.rest) := by
  simp only [header?, Option.bind_eq_bind, Option.bind_eq_some_iff, Prod.exists,
    keyword?_eq_some_iff, name?_eq_some_iff] at hh
  obtain ⟨_, ⟨k, hk, rfl, -⟩, n, v, ⟨rfl, hn, hends⟩, hh⟩ := hh
  obtain ⟨b, -, hv⟩ := exists_skipBlanks v
  split at hh
  · rename_i r hr
    obtain rfl := Option.some.inj hh
    rw [char?_eq_some hr, List.append_cons] at hv
    exact ⟨rfl, _, _, .mk hk hn, by simp only [hv, List.append_assoc], hv ▸ hends⟩
  · obtain rfl := Option.some.inj hh
    exact ⟨rfl, _, b, .mk hk hn, by simp only [← hv, List.append_assoc], hv ▸ hends⟩

end TablePackage.Routine
