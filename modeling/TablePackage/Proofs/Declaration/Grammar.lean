import TablePackage.Declaration
import TablePackage.Proofs.Text.Search
import TablePackage.Proofs.Text.Unicode

/-!
# The grammar of declarations

How a declaration may be written: its keyword in any letter case, its name between quotes, and
blanks between the symbols. The readers of `TablePackage.Declaration` take off exactly what is
written like that.

* `table?_eq_some_iff`, `column?_eq_some_iff`: a declaration is read where one is written;
* `WrittenColumn.endsAsKey_eq`: a declaration ends like that of a key where the mark is written;
* `scan_append_of_misses`, `scan_append_of_column`: a scan step by step;
* `isName_of_mem_scan`, `tableName_eq_nil_or`: all names that are read are words.
-/

namespace TablePackage

namespace Declaration

open Ascii

variable {k n q m t r w : Text} {isKey : Bool} {c : Column}

/-! ## Written declarations -/

/-- How a keyword with a name in quotes and parentheses is written, up to the blanks behind. -/
inductive QuotedName (k n : Text) : Text → Prop
  | mk {q b₁ b₂ b₃ b₄ : Text} : Spells k q → Blanks b₁ → Blanks b₂ → Blanks b₃ → Blanks b₄ →
    IsName n → QuotedName k n
      (q ++ (b₁ ++ '(' :: (b₂ ++ '"' :: (n ++ '"' :: (b₃ ++ ')' :: b₄)))))

/-- How the mark of a key is written, or that there is none. -/
inductive WrittenMark : Bool → Text → Prop
  | none : WrittenMark false []
  | mark {q b : Text} : Spells ".primarykey" q → Blanks b → WrittenMark true (q ++ b)

/-- How the declaration of a table is written. -/
inductive WrittenTable (n : Text) : Text → Prop
  | mk {q : Text} : QuotedName "table_name" n q → WrittenTable n (q ++ [';'])

/-- How the declaration of a column is written. -/
inductive WrittenColumn : Column → Text → Prop
  | mk {n q m : Text} {isKey : Bool} : QuotedName "table_attr" n q → WrittenMark isKey m →
    WrittenColumn ⟨n, isKey⟩ (q ++ (m ++ [';']))

/-- A name may be written without blanks. -/
theorem QuotedName.compact (hq : Spells k q) (hn : IsName n) :
    QuotedName k n (q ++ '(' :: '"' :: (n ++ ['"', ')'])) :=
  have hnone : Blanks [] := List.forall_mem_nil _
  .mk hq hnone hnone hnone hnone hn

theorem QuotedName.isName (h : QuotedName k n q) : IsName n := by
  cases h with
  | mk _ _ _ _ _ hn => exact hn

/-- A written name is read, with all blanks behind it. -/
theorem QuotedName.read (h : QuotedName k n q) (hr : ∀ c ∈ r.head?, isBlank c = false) :
    quotedName? k (q ++ r) = some (n, r) := by
  cases h with
  | @mk q b₁ b₂ b₃ b₄ hq h₁ h₂ h₃ h₄ hn =>
    simp only [List.append_assoc, List.cons_append]
    rw [quotedName?, keyword?_append hq]
    simp only [bind, Option.bind]
    rw [skipBlanks_append_cons h₁ rfl, char?_cons_self]
    dsimp only
    rw [skipBlanks_append_cons h₂ rfl, char?_cons_self]
    dsimp only
    rw [word?_append_cons hn rfl]
    dsimp only
    rw [char?_cons_self]
    dsimp only
    rw [skipBlanks_append_cons h₃ rfl, char?_cons_self]
    dsimp only
    rw [skipBlanks_append h₄ hr]
    rfl

/-- Where a name is read, it is written, and no blank follows. -/
theorem QuotedName.of_read (h : quotedName? k t = some (n, r)) :
    ∃ q, QuotedName k n q ∧ t = q ++ r ∧ ∀ c ∈ r.head?, isBlank c = false := by
  simp only [quotedName?, Option.bind_eq_bind, Option.bind_eq_some_iff, Option.pure_def,
    Option.some.injEq, Prod.mk.injEq, Prod.exists] at h
  obtain ⟨t₁, h₁, t₂, h₂, t₃, h₃, n', t₄, h₄, t₅, h₅, t₆, h₆, rfl, rfl⟩ := h
  obtain ⟨q, hq, rfl⟩ := keyword?_eq_some_iff.1 h₁
  obtain ⟨b₁, hb₁, ht₁⟩ := exists_blanks t₁
  obtain ⟨b₂, hb₂, ht₂⟩ := exists_blanks t₂
  obtain ⟨rfl, hn, _⟩ := word?_eq_some_iff.1 h₄
  obtain ⟨b₃, hb₃, ht₅⟩ := exists_blanks t₅
  obtain ⟨b₄, hb₄, ht₆⟩ := exists_blanks t₆
  rw [char?_eq_some_iff.1 h₂] at ht₁
  rw [char?_eq_some_iff.1 h₃] at ht₂
  rw [char?_eq_some_iff.1 h₆] at ht₅
  obtain rfl := char?_eq_some_iff.1 h₅
  refine ⟨_, .mk hq hb₁ hb₂ hb₃ hb₄ hn, ?_, head?_skipBlanks t₆⟩
  conv_lhs => rw [ht₁, ht₂, ht₅, ht₆]
  simp only [List.append_assoc, List.cons_append]

/-! ## Readers -/

/-- The declaration of a table is read where it is written. -/
theorem table?_eq_some_iff : table? t = some (n, r) ↔ ∃ w, WrittenTable n w ∧ t = w ++ r := by
  constructor
  · intro h
    simp only [table?, Option.bind_eq_bind, Option.bind_eq_some_iff, Option.pure_def,
      Option.some.injEq, Prod.mk.injEq, Prod.exists] at h
    obtain ⟨n', t₁, h₁, t₂, h₂, rfl, rfl⟩ := h
    obtain ⟨q, hq, rfl, _⟩ := QuotedName.of_read h₁
    obtain rfl := char?_eq_some_iff.1 h₂
    exact ⟨q ++ [';'], .mk hq, by rw [List.append_assoc]; rfl⟩
  · rintro ⟨w, ⟨hq⟩, rfl⟩
    rename_i q
    rw [List.append_assoc, List.cons_append, List.nil_append, table?,
      hq.read (Text.forall_head?_cons (by decide) r)]
    simp only [bind, Option.bind]
    rw [char?_cons_self]
    rfl

/-- The mark of a key is read where it is written. -/
theorem WrittenMark.read (h : WrittenMark isKey m) :
    keyMark (m ++ ';' :: r) = (isKey, ';' :: r) := by
  cases h with
  | none => rfl
  | @mark q b hq hb =>
    rw [keyMark, List.append_assoc, keyword?_append hq]
    dsimp only
    rw [skipBlanks_append_cons hb rfl]

/-- Whatever stands somewhere, the mark of a key is written there, or none is. -/
theorem writtenMark_keyMark (t : Text) :
    ∃ m, WrittenMark (keyMark t).1 m ∧ t = m ++ (keyMark t).2 := by
  unfold keyMark
  split
  · rename_i t₁ h₁
    obtain ⟨q, hq, rfl⟩ := keyword?_eq_some_iff.1 h₁
    obtain ⟨b, hb, ht₁⟩ := exists_blanks t₁
    refine ⟨q ++ b, .mark hq hb, ?_⟩
    rw [List.append_assoc, ← ht₁]
  · exact ⟨[], .none, rfl⟩

/-- A mark and the end of a declaration do not start with a blank. -/
theorem WrittenMark.head?_append (h : WrittenMark isKey m) :
    ∀ c ∈ (m ++ ';' :: r).head?, isBlank c = false := by
  cases h with
  | none => exact Text.forall_head?_cons (by decide) r
  | @mark q b hq hb =>
    cases q with
    | nil => cases hq
    | cons d q =>
      exact Text.forall_head?_cons (hq.isBlank_eq_false (by decide) d List.mem_cons_self) _

/-- The mark of a key has no quote. -/
theorem WrittenMark.quote_not_mem (h : WrittenMark isKey m) : '"' ∉ m := by
  cases h with
  | none => exact List.not_mem_nil
  | mark hq hb =>
    rw [List.mem_append, not_or]
    exact ⟨hq.not_mem (by decide) (by decide), hb.not_mem rfl⟩

/-- The declaration of a column is read where it is written. -/
theorem column?_eq_some_iff :
    column? t = some (c, r) ↔ ∃ w, WrittenColumn c w ∧ t = w ++ r := by
  constructor
  · intro h
    simp only [column?, Option.bind_eq_bind, Option.bind_eq_some_iff, Option.pure_def,
      Option.some.injEq, Prod.mk.injEq, Prod.exists] at h
    obtain ⟨n, t₁, h₁, t₂, h₂, rfl, rfl⟩ := h
    obtain ⟨q, hq, rfl, _⟩ := QuotedName.of_read h₁
    obtain ⟨m, hm, ht₁⟩ := writtenMark_keyMark t₁
    rw [char?_eq_some_iff.1 h₂] at ht₁
    exact ⟨_, .mk hq hm, by rw [ht₁]; simp only [List.append_assoc, List.cons_append,
      List.nil_append]⟩
  · rintro ⟨w, ⟨hq, hm⟩, rfl⟩
    rename_i n q m isKey
    simp only [List.append_assoc, List.cons_append, List.nil_append]
    rw [column?, hq.read hm.head?_append]
    simp only [bind, Option.bind]
    rw [hm.read, char?_cons_self]
    rfl

/-- A declared column has a word for its name. -/
theorem WrittenColumn.isName (h : WrittenColumn c w) : IsName c.name := by
  cases h with
  | mk hq _ => exact hq.isName

/-- A declared table has a word for its name. -/
theorem WrittenTable.isName (h : WrittenTable n w) : IsName n := by
  cases h with
  | mk hq => exact hq.isName

/-! ## Endings -/

section Endings

variable {d : Char}

/-- An ASCII character that is no full stop. -/
def Dotless (c : Char) : Prop := c.toNat < 128 ∧ c ≠ '.'

instance : Decidable (Dotless d) := inferInstanceAs (Decidable (d.toNat < 128 ∧ d ≠ '.'))

theorem Dotless.of_toLower (h : Dotless d.toLower) : Dotless d :=
  ⟨lt_of_toLower_lt h.1, by rintro rfl; exact h.2 rfl⟩

theorem Dotless.of_isBlank (h : isBlank d = true) : Dotless d :=
  ⟨(isWord_of_isBlank h).1, by rintro rfl; cases h⟩

theorem Dotless.of_isWord (h : isWord d = true) : Dotless d :=
  ⟨lt_of_isWord h, by rintro rfl; cases h⟩

/-- A written name has no full stop, if its keyword has none. -/
theorem QuotedName.dotless (h : QuotedName k n q) (hk : ∀ c ∈ k, Dotless c) :
    ∀ c ∈ q, Dotless c := by
  cases h with
  | mk hq h₁ h₂ h₃ h₄ hn =>
    have hblanks : ∀ {b : Text}, Blanks b → ∀ c ∈ b, Dotless c :=
      fun hb c hc => .of_isBlank (hb c hc)
    simp only [List.forall_mem_append, List.forall_mem_cons]
    exact ⟨fun c hc => .of_toLower (hk _ (hq ▸ List.mem_map_of_mem hc)), hblanks h₁, by decide,
      hblanks h₂, by decide, fun c hc => .of_isWord (hn.2 c hc), by decide, hblanks h₃, by decide,
      hblanks h₄⟩

/-- The mark of a key is not read where no full stop stands. -/
theorem keyEnding?_eq_none (ht : ∀ c ∈ t, Dotless c) : keyEnding? t = none := by
  have hnone : Text.after? Unicode.sameLetter ".primarykey" t = none := by
    cases t with
    | nil => rfl
    | cons c t =>
      obtain ⟨hlt, hne⟩ := ht c List.mem_cons_self
      refine if_neg fun h => hne ?_
      exact (toLower_eq_iff (by decide)).1 ((Unicode.sameLetter_iff (by decide) hlt).1 h).symm
  rw [keyEnding?, hnone]
  rfl

/-- The mark of a key is read with the semicolon behind it. -/
theorem WrittenMark.keyEnding? (h : WrittenMark true m) :
    Declaration.keyEnding? (m ++ [';']) = some ((), []) := by
  cases h with
  | mark hq hb =>
    rw [List.append_assoc, Declaration.keyEnding?,
      Text.after?_append (hq.sameLetters (by decide))]
    simp only [bind, Option.bind]
    rw [Text.dropWhile_append_stop hb.unicode (Text.forall_head?_cons (by decide) []),
      char?_cons_self]
    rfl

/-- A declaration ends like that of a key where the mark of a key is written in it. -/
theorem WrittenColumn.endsAsKey_eq (h : WrittenColumn c w) : endsAsKey w = c.isKey := by
  obtain ⟨hq, hm⟩ := h
  rename_i n q m isKey
  cases isKey with
  | true =>
    cases hfind : Text.find? Declaration.keyEnding? (q ++ (m ++ [';'])) with
    | some f => rw [endsAsKey, hfind]; rfl
    | none =>
      have hmisses := (Text.misses_of_find?_eq_none hfind).1
      have hread := Text.misses_iff.1 hmisses q (m ++ [';']) rfl (by simp)
      rw [List.append_nil, hm.keyEnding?] at hread
      cases hread
  | false =>
    obtain ⟨⟩ := hm
    have hdotless : ∀ c ∈ q ++ ([] ++ [';']), Dotless c := by
      simp only [List.nil_append, List.forall_mem_append, List.forall_mem_singleton]
      exact ⟨hq.dotless (by decide), by decide⟩
    have hmisses : Text.Misses Declaration.keyEnding? (q ++ ([] ++ [';'])) [] := by
      refine Text.misses_iff.2 fun x y hxy _ => keyEnding?_eq_none ?_
      rw [List.append_nil]
      exact fun c hc => hdotless c (hxy ▸ List.mem_append_right x hc)
    rw [endsAsKey, Text.find?_eq_none hmisses rfl]
    rfl

end Endings

/-! ## Scans -/

section Scan

variable {i : Nat} {found : ColumnMatch} {cursor next : Cursor} {s u : Text}

theorem scan_of_next?_eq_none (h : cursor.next? = none) : cursor.scan = [] := by
  rw [Cursor.scan]
  split
  · rfl
  · rename_i he
    rw [h] at he
    cases he

theorem scan_of_next?_eq_some (h : cursor.next? = some (found, next)) :
    cursor.scan = found :: next.scan := by
  rw [Cursor.scan]
  split
  · rename_i he
    rw [h] at he
    cases he
  · rename_i he
    rw [h] at he
    cases he
    rfl

/-- A scan takes a declaration at its start, and goes on behind it. -/
theorem scan_append_of_column (h : WrittenColumn c w) :
    Cursor.scan ⟨i, w ++ r⟩ = ⟨c, i, i + w.length, w⟩ :: Cursor.scan ⟨i + w.length, r⟩ := by
  refine scan_of_next?_eq_some ?_
  rw [Cursor.next?, Text.find?_of_read_append (column?_eq_some_iff.2 ⟨w, h, rfl⟩), Option.map_some]
  dsimp only
  rw [h.endsAsKey_eq]
  rfl

/-- A scan passes over a text in which no declaration starts. -/
theorem scan_append_of_misses (h : Text.Misses column? u s) :
    Cursor.scan ⟨i, u ++ s⟩ = Cursor.scan ⟨i + u.length, s⟩ := by
  have hnext : Cursor.next? ⟨i, u ++ s⟩ = Cursor.next? ⟨i + u.length, s⟩ := by
    rw [Cursor.next?, Cursor.next?, Text.find?_append_of_misses h, Option.map_map]
    dsimp only
    refine Option.map_congr fun f _ => ?_
    simp only [Function.comp_apply, List.length_append, Nat.add_assoc]
  rw [Cursor.scan, Cursor.scan, hnext]

/-- A scan finds nothing in a text in which no declaration starts. -/
theorem scan_eq_nil (h : Text.Misses column? t []) : Cursor.scan ⟨i, t⟩ = [] := by
  have hscan := scan_append_of_misses (i := i) h
  rw [List.append_nil] at hscan
  rw [hscan]
  exact scan_of_next?_eq_none rfl

/-- The next declaration that a scan finds: what it passes over, and where it goes on. -/
theorem exists_of_next?_eq_some (h : cursor.next? = some (found, next)) :
    ∃ u, cursor.rest = u ++ (found.text ++ next.rest) ∧
      Text.Misses column? u (found.text ++ next.rest) ∧ WrittenColumn found.column found.text ∧
      found.start = cursor.offset + u.length ∧ found.stop = found.start + found.text.length ∧
      next.offset = found.stop := by
  obtain ⟨f, hf, he⟩ := Option.map_eq_some_iff.1 h
  obtain ⟨s, ht, hmisses, hread, htaken⟩ := Text.misses_of_find?_eq_some hf
  obtain ⟨w, hw, rfl⟩ := column?_eq_some_iff.1 hread
  rw [List.length_append, Nat.add_sub_cancel, List.take_left] at htaken
  obtain ⟨rfl, rfl⟩ := Prod.mk.inj he
  dsimp only
  rw [htaken, hw.endsAsKey_eq]
  exact ⟨f.before, ht, hmisses, hw, rfl, rfl, rfl⟩

/-- All columns that a scan finds are named by words. -/
theorem isName_of_mem_scan (h : found ∈ cursor.scan) : IsName found.column.name := by
  -- Along the scan: the columns behind a cursor are the next one and those behind this.
  induction cursor using Cursor.scan.induct with
  | case1 cursor hnext =>
    rw [scan_of_next?_eq_none hnext] at h
    cases h
  | case2 cursor m next hnext ih =>
    rw [scan_of_next?_eq_some hnext] at h
    rcases List.mem_cons.1 h with rfl | h
    · obtain ⟨_, _, _, hw, _⟩ := exists_of_next?_eq_some hnext
      exact hw.isName
    · exact ih h

/-- The name of a table is a word, if there is one. -/
theorem tableName_eq_nil_or (t : Text) : tableName t = [] ∨ IsName (tableName t) := by
  cases hf : Text.find? table? t with
  | none => exact .inl (by rw [tableName, hf]; rfl)
  | some f =>
    obtain ⟨s, _, _, hread, _⟩ := Text.misses_of_find?_eq_some hf
    obtain ⟨w, hw, _⟩ := table?_eq_some_iff.1 hread
    exact .inr (by rw [tableName, hf]; exact hw.isName)

end Scan

end Declaration
end TablePackage
