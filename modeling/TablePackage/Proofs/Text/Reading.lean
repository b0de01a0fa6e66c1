import Mathlib.Data.List.Forall2
import TablePackage.Text

/-!
# Reading off the start of a text

What the readers of `TablePackage.Text` take off the start of a text, as a division of the text
in what is read and what follows it.

* `after?_eq_some_iff`: a pattern is read where the text agrees with it;
* `run?_eq_some_iff`: a run is read up to what is not of its class;
* `mem_wordsBy`: what words are made of;
* `not_mem_join`, `join_append_singleton`: texts that are put together with a separator.
-/

namespace TablePackage.Text

variable {same : Char → Char → Bool} {p : Char → Bool} {k s t r w : Text}

-- Statements about the characters of a text are decided by looking at these, not at all characters.
instance {P : Char → Prop} [DecidablePred P] (t : Text) : Decidable (∀ c ∈ t, P c) :=
  List.decidableBAll P t

instance {P : Char → Prop} [DecidablePred P] (o : Option Char) : Decidable (∀ c ∈ o, P c) :=
  Option.decidableForallMem o

/-! ## Patterns -/

/-- A pattern is read where a text starts with characters that agree with it. -/
theorem after?_eq_some_iff :
    after? same k t = some r ↔ ∃ q, List.Forall₂ (fun a c => same a c = true) k q ∧ t = q ++ r := by
  induction k generalizing t with
  | nil =>
    rw [after?, Option.some.injEq]
    constructor
    · rintro rfl
      exact ⟨[], .nil, rfl⟩
    · rintro ⟨q, hq, rfl⟩
      rw [List.forall₂_nil_left_iff.1 hq]
      rfl
  | cons a k ih =>
    cases t with
    | nil =>
      constructor
      · intro h
        cases h
      · rintro ⟨q, hq, h⟩
        obtain ⟨c, q, _, _, rfl⟩ := List.forall₂_cons_left_iff.1 hq
        cases h
    | cons c t =>
      rw [after?, Option.ite_none_right_eq_some, ih]
      constructor
      · rintro ⟨hc, q, hq, rfl⟩
        exact ⟨c :: q, .cons hc hq, rfl⟩
      · rintro ⟨q, hq, h⟩
        obtain ⟨d, q', hd, hq', rfl⟩ := List.forall₂_cons_left_iff.1 hq
        obtain ⟨rfl, rfl⟩ := List.cons.inj h
        exact ⟨hd, q', hq', rfl⟩

/-- A pattern that agrees with the start of a text is read there. -/
theorem after?_append (h : List.Forall₂ (fun a c => same a c = true) k w) :
    after? same k (w ++ r) = some r :=
  after?_eq_some_iff.2 ⟨w, h, rfl⟩

/-- Compared as they are, characters agree with themselves only. -/
theorem after?_beq_eq_some_iff : after? (· == ·) k t = some r ↔ t = k ++ r := by
  have heq : (fun a c : Char => (a == c) = true) = (· = ·) := by funext a c; simp
  rw [after?_eq_some_iff, heq]
  simp only [List.forall₂_eq_eq_eq, exists_eq_left']

/-! ## Runs -/

/-- The longest run at the start of a text ends where a character outside the class follows. -/
theorem takeWhile_append_stop (hw : ∀ c ∈ w, p c) (hr : ∀ c ∈ r.head?, p c = false) :
    (w ++ r).takeWhile p = w := by
  rw [List.takeWhile_append_of_pos hw]
  cases r with
  | nil => rw [List.takeWhile_nil, List.append_nil]
  | cons c r => rw [List.takeWhile_cons_of_neg (by simp [hr c rfl]), List.append_nil]

/-- What follows the longest run at the start of a text. -/
theorem dropWhile_append_stop (hw : ∀ c ∈ w, p c) (hr : ∀ c ∈ r.head?, p c = false) :
    (w ++ r).dropWhile p = r := by
  rw [List.dropWhile_append_of_pos hw]
  cases r with
  | nil => rfl
  | cons c r => rw [List.dropWhile_cons_of_neg (by simp [hr c rfl])]

/-- Where a run has stopped, no character of the class follows. -/
theorem head?_dropWhile (p : Char → Bool) (t : Text) :
    ∀ c ∈ (t.dropWhile p).head?, p c = false := by
  intro c hc
  have h := List.head?_dropWhile_not p t
  rw [hc] at h
  simpa using h

/-- A run has characters of its class only. -/
theorem forall_mem_takeWhile (p : Char → Bool) (t : Text) : ∀ c ∈ t.takeWhile p, p c :=
  List.all_eq_true.1 List.all_takeWhile

/-- A run is read where a text starts with characters of the class, up to one outside it. -/
theorem run?_eq_some_iff :
    run? p t = some (w, r) ↔
      t = w ++ r ∧ w ≠ [] ∧ (∀ c ∈ w, p c) ∧ ∀ c ∈ r.head?, p c = false := by
  constructor
  · intro h
    have ht := t.takeWhile_append_dropWhile (p := p)
    unfold run? at h
    split at h
    · cases h
    · rename_i a as ha
      obtain ⟨rfl, rfl⟩ := Prod.mk.inj (Option.some.inj h)
      rw [ha] at ht
      exact ⟨ht.symm, List.cons_ne_nil a as, ha ▸ forall_mem_takeWhile p t, head?_dropWhile p t⟩
  · rintro ⟨rfl, hne, hw, hr⟩
    rw [run?, takeWhile_append_stop hw hr, dropWhile_append_stop hw hr]
    obtain ⟨c, cs, rfl⟩ := List.exists_cons_of_ne_nil hne
    rfl

/-- A non-empty run is read where it stands. -/
theorem run?_append (hne : w ≠ []) (hw : ∀ c ∈ w, p c) (hr : ∀ c ∈ r.head?, p c = false) :
    run? p (w ++ r) = some (w, r) :=
  run?_eq_some_iff.2 ⟨rfl, hne, hw, hr⟩

/-- What holds of a character holds of the start of a text that starts with it. -/
theorem forall_head?_cons {P : Char → Prop} {c : Char} (h : P c) (t : Text) :
    ∀ d ∈ (c :: t).head?, P d := by
  intro d hd
  obtain rfl : c = d := Option.some.inj hd
  exact h

/-- No run is read where no character of the class stands. -/
theorem run?_eq_none (ht : ∀ c ∈ t.head?, p c = false) : run? p t = none := by
  cases t with
  | nil => rfl
  | cons c t => rw [run?, List.takeWhile_cons_of_neg (by simp [ht c rfl])]

/-! ## Words -/

variable {blank : Char → Bool}

/-- A character that is no blank starts a word, or goes on with the first one. -/
theorem wordsBy_cons {c : Char} (hc : blank c = false) (t : Text) :
    wordsBy blank (c :: t) = [c] :: wordsBy blank t ∨
      ∃ word words, wordsBy blank t = word :: words ∧
        wordsBy blank (c :: t) = (c :: word) :: words := by
  cases t with
  | nil =>
    rw [wordsBy.eq_def]
    exact .inl (if_neg (by rw [hc]; decide))
  | cons d t =>
    rw [wordsBy.eq_def]
    dsimp only
    rw [if_neg (by rw [hc]; decide)]
    split
    · exact .inl rfl
    · split
      · rename_i hnil
        exact .inl (by rw [hnil])
      · rename_i word words hwords
        exact .inr ⟨word, words, hwords, rfl⟩

/-- The words of a text are not empty; they have its characters, but no blanks. -/
theorem mem_wordsBy (h : w ∈ wordsBy blank t) : w ≠ [] ∧ ∀ c ∈ w, c ∈ t ∧ blank c = false := by
  induction t generalizing w with
  | nil => cases h
  | cons d t ih =>
    have hlater : w ∈ wordsBy blank t → w ≠ [] ∧ ∀ c ∈ w, c ∈ d :: t ∧ blank c = false :=
      fun hw => (ih hw).imp_right fun hall c hc =>
        (hall c hc).imp_left (List.mem_cons_of_mem d)
    cases hd : blank d with
    | true =>
      rw [wordsBy.eq_def] at h
      dsimp only at h
      rw [if_pos hd] at h
      exact hlater h
    | false =>
      have hself : d ∈ d :: t ∧ blank d = false := ⟨List.mem_cons_self, hd⟩
      rcases wordsBy_cons hd t with hword | ⟨word, words, ht, hword⟩
      · rw [hword] at h
        rcases List.mem_cons.1 h with rfl | hw
        · exact ⟨List.cons_ne_nil d [], List.forall_mem_singleton.2 hself⟩
        · exact hlater hw
      · rw [hword] at h
        rw [ht] at ih hlater
        rcases List.mem_cons.1 h with rfl | hw
        · refine ⟨List.cons_ne_nil d word, List.forall_mem_cons.2 ⟨hself, fun c hc => ?_⟩⟩
          exact ((ih List.mem_cons_self).2 c hc).imp_left (List.mem_cons_of_mem d)
        · exact hlater (List.mem_cons_of_mem word hw)

/-! ## Joins -/

/-- A character that stands neither in the separator nor in the parts stands in no join. -/
theorem not_mem_join {d : Char} {separator : Text} {ts : List Text} (hsep : d ∉ separator)
    (hts : ∀ t ∈ ts, d ∉ t) : d ∉ join separator ts := by
  induction ts with
  | nil => exact List.not_mem_nil
  | cons t ts ih =>
    obtain ⟨ht, hts⟩ := List.forall_mem_cons.1 hts
    cases ts with
    | nil => rwa [join, List.intercalate_singleton]
    | cons u ts =>
      rw [join, List.intercalate_cons_cons, List.mem_append, List.mem_append, not_or, not_or]
      exact ⟨⟨ht, hsep⟩, ih hts⟩

/-- A join starts with its first part. -/
theorem exists_join_cons (separator t : Text) (ts : List Text) :
    ∃ r, join separator (t :: ts) = t ++ r := by
  cases ts with
  | nil => exact ⟨[], by rw [join, List.intercalate_singleton, List.append_nil]⟩
  | cons u ts =>
    exact ⟨separator ++ join separator (u :: ts), by
      rw [join, List.intercalate_cons_cons, List.append_assoc]⟩

/-- Texts with line feeds between them: each but the last one is ended by a line feed. -/
theorem join_append_singleton (ts : List Text) (t : Text) :
    join "\n" (ts ++ [t]) = ts.flatMap (· ++ ("\n" : Text)) ++ t := by
  induction ts with
  | nil => exact List.intercalate_singleton
  | cons u ts ih =>
    obtain ⟨v, vs, hvs⟩ := List.exists_cons_of_ne_nil (List.append_ne_nil_of_right_ne_nil ts
      (List.cons_ne_nil t []))
    rw [List.cons_append, hvs, join, List.intercalate_cons_cons, ← hvs, ← join, ih,
      List.flatMap_cons]
    simp only [List.append_assoc]

end TablePackage.Text
