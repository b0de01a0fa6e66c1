import TablePackage.Proofs.Routine.Reading
import TablePackage.Proofs.Text.Search

/-!
# Text without headers and ends

Between the header of a procedure and its end, and between two procedures, nothing may be taken
for a header or an end, whatever the names are: a table may be named `PROCEDURE`, and a parameter
`APPEND`. A text is *inert* if neither a header nor an end of any name is read at any place
of it.

Fixed phrases are inert because they differ from both keywords at every place (`isFixed`). A name
may end in a keyword, but what follows it in a statement is *plain*: it does not go on like a
header or an end.

* `inert_of_isFixed`, `inert_of_letters`: phrases and names are inert;
* `Inert.append`, `inert_join`: texts that are put together of these are, too.
-/

namespace TablePackage.Routine

open Ascii

variable {follow : Text → Option Text} {b k n r s t u v w x y : Text} {c : Char}

/-! ## Headers and ends -/

/-- A header that is followed by a parenthesis, or by what `follow` reads. -/
def candidate? (follow : Text → Option Text) (t : Text) : Option Header :=
  (header? t).filter fun h => h.opens || (follow h.rest).isSome

/-- Neither a header nor an end is read at any place of `u`, when `s` follows. -/
structure Inert (follow : Text → Option Text) (u s : Text) : Prop where
  headers : Text.Misses (candidate? follow) u s
  ends : ∀ n, IsName n → Text.Misses (end? n) u s

theorem inert_nil (s : Text) : Inert follow [] s := ⟨trivial, fun _ _ => trivial⟩

/-- What is inert in two pieces, one after the other. -/
theorem Inert.append (hu : Inert follow u (v ++ s)) (hv : Inert follow v s) :
    Inert follow (u ++ v) s :=
  ⟨Text.misses_append.2 ⟨hu.headers, hv.headers⟩,
    fun n hn => Text.misses_append.2 ⟨hu.ends n hn, hv.ends n hn⟩⟩

/-- `read` starts with the keyword `k` and blanks, and only succeeds if `p` holds then. -/
def Keyed {β : Type} (k : Text) (p : Text → Prop) (read : Text → Option β) : Prop :=
  ∀ t, read t ≠ none → ∃ r u, word? k t = some r ∧ blanks? r = some u ∧ p u

/-- The name of a header, and what goes on behind it and its blanks. -/
theorem keyed_candidate? (follow : Text → Option Text) :
    Keyed "PROCEDURE" (fun u => ∃ w v, name? u = some (w, v) ∧
      (char? '(' (skipBlanks v) ≠ none ∨ follow (skipBlanks v) ≠ none)) (candidate? follow) := by
  intro t ht
  obtain ⟨h, hcandidate⟩ := Option.ne_none_iff_exists'.1 ht
  obtain ⟨hheader, haccepted⟩ := Option.filter_eq_some_iff.1 hcandidate
  simp only [header?, Option.bind_eq_bind, Option.bind_eq_some_iff, Prod.exists] at hheader
  obtain ⟨u, hkeyword, w, v, hw, hheader⟩ := hheader
  obtain ⟨r, hr, hu⟩ := Option.bind_eq_some_iff.1 hkeyword
  refine ⟨r, u, hr, hu, w, v, hw, ?_⟩
  split at hheader
  · rename_i rest hrest
    exact .inl (by rw [hrest]; exact Option.some_ne_none rest)
  · cases hheader
    exact .inr (Option.isSome_iff_ne_none.1 (by simpa using haccepted))

/-- The name of an end, and the semicolon behind it and its blanks. -/
theorem keyed_end? (n : Text) :
    Keyed "END" (fun u => ∃ v, word? n u = some v ∧ char? ';' (skipBlanks v) ≠ none)
      (end? n) := by
  intro t ht
  obtain ⟨⟨_, rest⟩, hend⟩ := Option.ne_none_iff_exists'.1 ht
  simp only [end?, Option.bind_eq_bind, Option.bind_eq_some_iff] at hend
  obtain ⟨u, hkeyword, v, hv, z, hz, _⟩ := hend
  obtain ⟨r, hr, hu⟩ := Option.bind_eq_some_iff.1 hkeyword
  exact ⟨r, u, hr, hu, v, hv, by rw [hz]; exact Option.some_ne_none z⟩

/-! ## Phrases -/

/-- Whether two texts differ before one of them ends. -/
def differs : Text → Text → Bool
  | a :: k, c :: u => !Unicode.sameLetter a c || differs k u
  | _, _ => false

/-- Whether a keyword can start nowhere in a text. -/
def isFree (k : Text) : Text → Bool
  | [] => true
  | c :: u => differs k (c :: u) && isFree k u

/-- Whether neither keyword can start anywhere in a text. -/
def isFixed (u : Text) : Bool := isFree "PROCEDURE" u && isFree "END" u

/-- A keyword is not read where a text differs from it. -/
theorem word?_of_differs (h : differs k u = true) : word? k (u ++ s) = none := by
  induction k generalizing u with
  | nil => cases h
  | cons a k ih =>
    cases u with
    | nil => cases h
    | cons c u =>
      rw [differs, Bool.or_eq_true] at h
      rw [word?, List.cons_append, Text.after?]
      rcases h with h | h
      · rw [Bool.not_eq_true'] at h
        rw [h]
        rfl
      · split
        · exact ih h
        · rfl

/-- A phrase in which the keyword cannot start is missed. -/
theorem Keyed.misses_of_isFree {β : Type} {p : Text → Prop} {read : Text → Option β}
    (hread : Keyed k p read) (hu : isFree k u = true) : Text.Misses read u s := by
  induction u with
  | nil => exact trivial
  | cons c u ih =>
    rw [isFree, Bool.and_eq_true] at hu
    refine ⟨?_, ih hu.2⟩
    by_contra hne
    obtain ⟨r, _, hr, _⟩ := hread _ hne
    have hnone : word? k (c :: (u ++ s)) = none := word?_of_differs hu.1
    rw [hnone] at hr
    cases hr

/-- A phrase is inert. -/
theorem inert_of_isFixed (hu : isFixed u = true) : Inert follow u s := by
  obtain ⟨hheader, hend⟩ := Bool.and_eq_true_iff.1 hu
  exact ⟨(keyed_candidate? follow).misses_of_isFree hheader,
    fun n _ => (keyed_end? n).misses_of_isFree hend⟩

/-! ## Names -/

/-- A text that goes on neither like a header nor like an end, behind a name and blanks. -/
structure Mild (follow : Text → Option Text) (y : Text) : Prop where
  head : ∀ c ∈ y.head?, Unicode.isBlank c = false ∧ c ≠ '(' ∧ c ≠ ';'
  follow_eq : follow y = none

/-- What may follow a name in a statement: a symbol, a gap and a symbol, or a gap and one more word,
    if the text behind this and the next gap is mild. -/
inductive Plain (follow : Text → Option Text) : Text → Prop
  | symbol {c : Char} {r : Text} : IsSymbol c → Plain follow (c :: r)
  | gap {b r : Text} {c : Char} : IsGap b → IsSymbol c → Plain follow (b ++ c :: r)
  | word {b w b' y : Text} : IsGap b → IsName w → IsGap b' → Mild follow y →
    Plain follow (b ++ (w ++ (b' ++ y)))

/-- A word is mild if `follow` does not read it. -/
theorem mild_append (hw : IsName w) (h : follow (w ++ r) = none) : Mild follow (w ++ r) := by
  refine ⟨?_, h⟩
  obtain ⟨d, w, rfl⟩ := List.exists_cons_of_ne_nil hw.1
  have hd := hw.2 d List.mem_cons_self
  refine Text.forall_head?_cons ⟨Unicode.isBlank_of_isWord hd, ?_, ?_⟩ _
  · rintro rfl
    cases hd
  · rintro rfl
    cases hd

/-- A name ends where a plain text follows. -/
theorem Plain.stops (h : Plain follow r) : Stops r := by
  cases h with
  | symbol hc => exact hc.stops
  | gap hb _ => exact hb.stops
  | word hb _ _ _ => exact hb.stops

theorem char?_eq_none (h : ∀ d ∈ t.head?, d ≠ c) : char? c t = none := by
  cases t with
  | nil => rfl
  | cons d t => exact if_neg (h d rfl)

/-- Behind a name and a plain text, no header goes on. -/
theorem Plain.not_header (h : Plain follow r) (hr : blanks? r = some u)
    (hw : name? u = some (w, v)) :
    ¬(char? '(' (skipBlanks v) ≠ none ∨ follow (skipBlanks v) ≠ none) := by
  cases h with
  | symbol hc =>
    rw [blanks?_eq_none (Text.forall_head?_cons hc.2 _)] at hr
    cases hr
  | gap hb hc =>
    rw [blanks?_append hb (Text.forall_head?_cons hc.2 _)] at hr
    obtain rfl := Option.some.inj hr
    rw [name?_eq_none hc.stops] at hw
    cases hw
  | word hb hw' hb' hy =>
    rw [blanks?_append hb (head?_name hw')] at hr
    obtain rfl := Option.some.inj hr
    rw [name?_append hw' hb'.stops] at hw
    cases hw
    rw [skipBlanks_append hb'.2 fun d hd => (hy.head d hd).1, hy.follow_eq,
      char?_eq_none fun d hd => (hy.head d hd).2.1]
    exact not_or.2 ⟨not_not_intro rfl, not_not_intro rfl⟩

/-- Behind a name and a plain text, no end goes on. -/
theorem Plain.not_end (h : Plain follow r) (hn : IsName n) (hr : blanks? r = some u)
    (hv : word? n u = some v) : char? ';' (skipBlanks v) = none := by
  cases h with
  | symbol hc =>
    rw [blanks?_eq_none (Text.forall_head?_cons hc.2 _)] at hr
    cases hr
  | gap hb hc =>
    rw [blanks?_append hb (Text.forall_head?_cons hc.2 _)] at hr
    obtain rfl := Option.some.inj hr
    rw [word?_eq_none hn hc.stops] at hv
    cases hv
  | word hb hw hb' hy =>
    rw [blanks?_append hb (head?_name hw)] at hr
    obtain rfl := Option.some.inj hr
    obtain ⟨q, w', rfl, rfl, _⟩ := word?_append_eq_some hn.letters hb'.stops hv
    cases w' with
    | nil =>
      rw [List.nil_append, skipBlanks_append hb'.2 fun d hd => (hy.head d hd).1]
      exact char?_eq_none fun d hd => (hy.head d hd).2.2
    | cons d w' =>
      -- The name of the end is only the start of this word.
      have hd := hw.2 d (List.mem_append_right q List.mem_cons_self)
      rw [List.cons_append,
        skipBlanks_eq_self (Text.forall_head?_cons (Unicode.isBlank_of_isWord hd) _)]
      refine char?_eq_none (Text.forall_head?_cons ?_ _)
      rintro rfl
      cases hd

/-- A reader with a keyword reads nothing in a name, if nothing goes on behind it. -/
theorem Keyed.misses_of_letters {β : Type} {p : Text → Prop} {read : Text → Option β}
    (hread : Keyed k p read) (hk : Letters k) (hw : Letters w) (hr : Stops r)
    (hp : ∀ u, blanks? r = some u → ¬p u) : Text.Misses read w r := by
  refine Text.misses_iff.2 fun x y hxy _ => ?_
  by_contra hne
  obtain ⟨rest, u, hword, hblanks, hu⟩ := hread _ hne
  obtain ⟨q, w', rfl, rfl, _⟩ := word?_append_eq_some hk hr hword
  cases w' with
  | nil => exact hp u hblanks hu
  | cons d w' =>
    -- Behind the keyword the name goes on, so there are no blanks.
    have hd := hw d (by simp [hxy])
    rw [List.cons_append,
      blanks?_eq_none (Text.forall_head?_cons (Unicode.isBlank_of_isWord hd) _)] at hblanks
    cases hblanks

/-- A name is inert where a plain text follows. -/
theorem inert_of_letters (hw : Letters w) (hr : Plain follow r) : Inert follow w r := by
  constructor
  · refine (keyed_candidate? follow).misses_of_letters (by decide) hw hr.stops ?_
    rintro u hu ⟨w, v, hname, h⟩
    exact hr.not_header hu hname h
  · intro n hn
    refine (keyed_end? n).misses_of_letters (by decide) hw hr.stops ?_
    rintro u hu ⟨v, hv, h⟩
    exact h (hr.not_end hn hu hv)

/-! ## Texts -/

/-- A phrase in front of an inert text. -/
theorem Inert.phrase (hu : isFixed u = true) (hv : Inert follow v s) : Inert follow (u ++ v) s :=
  (inert_of_isFixed hu).append hv

/-- A name in front of an inert text that is plain. -/
theorem Inert.name (hw : Letters w) (hr : Plain follow (v ++ s)) (hv : Inert follow v s) :
    Inert follow (w ++ v) s :=
  (inert_of_letters hw hr).append hv

/-- Items with a plain phrase between them are inert if each item is. -/
theorem inert_join {separator : Text} {ts : List Text} (hfixed : isFixed separator = true)
    (hplain : ∀ x, Plain follow (separator ++ x))
    (hts : ∀ t ∈ ts, ∀ r, Plain follow r → Inert follow t r) (hs : Plain follow s) :
    Inert follow (Text.join separator ts) s := by
  induction ts with
  | nil => exact inert_nil s
  | cons t ts ih =>
    obtain ⟨ht, hts⟩ := List.forall_mem_cons.1 hts
    cases ts with
    | nil =>
      rw [Text.join, List.intercalate_singleton]
      exact ht s hs
    | cons u ts =>
      rw [Text.join, List.intercalate_cons_cons, List.append_assoc]
      refine Inert.append ?_ (.phrase hfixed (ih hts))
      rw [List.append_assoc]
      exact ht _ (hplain _)

end TablePackage.Routine
