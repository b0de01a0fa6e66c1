import Mathlib.Data.List.TakeWhile
import TablePackage.Proofs.Declaration.Recovery

/-!
# Texts behind declarations

When a text is put behind another one, the declarations of this stay as they are, and there are
no new ones, if the text has no quote and starts, after blanks, with a character that stands in no
declaration behind the name (`Seam`). It does not matter how the other text ends, which may be in
the middle of a declaration.

* `Ends.eq_append`: a declaration does not reach across a seam;
* `stable_table?`, `stable_column?`: nor does a reader look across it;
* `scan_append_right`: a scan finds the same declarations at the same places;
* `ofText_append_right`, `opensWithTable_append_right`: the same table is extracted.
-/

namespace TablePackage

namespace Declaration

open Ascii

variable {α : Type} {read : Text → Option (α × Text)} {a : α} {n q s t r w : Text} {c : Column}
  {i : Nat}

/-! ## The end of a declaration -/

/-- The characters, in lower case, that stand in a declaration behind its name. -/
def closing : Text := ").primarykey;"

/-- No declaration that starts in front of `s` reaches into it. -/
def Seam (s : Text) : Prop :=
  '"' ∉ s ∧ ∀ c ∈ (skipBlanks s).head?, c.toLower ∉ closing

/-- Behind the last quote of `w`, there are blanks and closing characters only, and a semicolon at
    the end. -/
def Ends (w : Text) : Prop :=
  ∃ u v, w = u ++ '"' :: (v ++ [';']) ∧ ∀ c ∈ v, isBlank c = true ∨ c.toLower ∈ closing

/-- The part of a written name behind its last quote. -/
theorem QuotedName.exists_tail {k : Text} (h : QuotedName k n q) :
    ∃ u v, q = u ++ '"' :: v ∧ ∀ c ∈ v, isBlank c = true ∨ c.toLower ∈ closing := by
  cases h with
  | @mk q b₁ b₂ b₃ b₄ hq h₁ h₂ h₃ h₄ hn =>
    refine ⟨q ++ (b₁ ++ '(' :: (b₂ ++ '"' :: n)), b₃ ++ ')' :: b₄, ?_, fun c hc => ?_⟩
    · simp only [List.append_assoc, List.cons_append]
    rcases List.mem_append.1 hc with hc | hc
    · exact .inl (h₃ c hc)
    rcases List.mem_cons.1 hc with rfl | hc
    · exact .inr (by decide)
    · exact .inl (h₄ c hc)

theorem WrittenMark.closing {isKey : Bool} {m : Text} (h : WrittenMark isKey m) :
    ∀ c ∈ m, isBlank c = true ∨ c.toLower ∈ Declaration.closing := by
  intro c hc
  cases h with
  | none => cases hc
  | mark hq hb =>
    rcases List.mem_append.1 hc with hc | hc
    · have hlower := List.mem_map_of_mem (f := Char.toLower) hc
      rw [hq] at hlower
      refine .inr (List.mem_of_mem_tail (l := Declaration.closing) ?_)
      exact List.mem_append_left [';'] hlower
    · exact .inl (hb c hc)

theorem WrittenTable.ends (h : WrittenTable n w) : Ends w := by
  obtain ⟨hq⟩ := h
  obtain ⟨u, v, rfl, hv⟩ := hq.exists_tail
  exact ⟨u, v, by rw [List.append_assoc, List.cons_append], hv⟩

theorem WrittenColumn.ends (h : WrittenColumn c w) : Ends w := by
  obtain ⟨hq, hm⟩ := h
  rename_i _ m _
  obtain ⟨u, v, rfl, hv⟩ := hq.exists_tail
  refine ⟨u, v ++ m, by simp only [List.append_assoc, List.cons_append], fun c hc => ?_⟩
  rcases List.mem_append.1 hc with hc | hc
  · exact hv c hc
  · exact hm.closing c hc

/-- A text that starts a seam does not end in a semicolon behind blanks and closing characters. -/
theorem Seam.not_closing {y : Text} (hs : Seam (y ++ ';' :: r)) :
    ¬∀ c ∈ y, isBlank c = true ∨ c.toLower ∈ closing := by
  intro hy
  have hne : skipBlanks (y ++ [';']) ≠ [] := fun h =>
    Bool.false_ne_true (List.dropWhile_eq_nil_iff.1 h ';' (by simp))
  obtain ⟨c, x, hx⟩ := List.exists_cons_of_ne_nil hne
  have hskip : skipBlanks (y ++ ';' :: r) = c :: (x ++ r) := by
    have happend : y ++ ';' :: r = y ++ [';'] ++ r := by simp
    rw [happend, skipBlanks, List.dropWhile_append, ← skipBlanks, hx]
    rfl
  have hc : c ∈ y ++ [';'] := (List.dropWhile_sublist _).subset (hx ▸ List.mem_cons_self)
  have hblank : isBlank c = false := head?_skipBlanks _ c (by rw [hx]; rfl)
  have hclosing : c.toLower ∉ closing := hs.2 c (by rw [hskip]; rfl)
  rcases List.mem_append.1 hc with hc | hc
  · rcases hy c hc with h | h
    · rw [hblank] at h
      cases h
    · exact hclosing h
  · rw [List.mem_singleton.1 hc] at hclosing
    exact hclosing (by decide)

/-- A declaration does not reach across a seam. -/
theorem Ends.eq_append (hw : Ends w) (hs : Seam s) (h : t ++ s = w ++ r) :
    ∃ r', t = w ++ r' ∧ r = r' ++ s := by
  rcases List.append_eq_append_iff.1 h with ⟨x, hx, hsx⟩ | h
  · -- Its part behind the seam has no quote, so it is a part of what stands behind the last one.
    rcases x.eq_nil_or_concat with rfl | ⟨y, d, rfl⟩
    · exact ⟨[], by rw [hx, List.append_nil, List.append_nil], hsx.symm⟩
    · exfalso
      rw [List.concat_eq_append] at hx hsx
      obtain ⟨u, v, rfl, hv⟩ := hw
      have hy : '"' ∉ y := fun hmem => hs.1 (hsx ▸ by simp [hmem])
      have hsplit : u ++ '"' :: v ++ [';'] = t ++ y ++ [d] := by
        rw [List.append_assoc, List.append_assoc]
        exact hx
      obtain ⟨huv, hd⟩ := List.append_inj' hsplit rfl
      obtain rfl := List.singleton_inj.1 hd
      have hclosing : ∀ c ∈ y, isBlank c = true ∨ c.toLower ∈ closing := by
        rcases List.append_eq_append_iff.1 huv with ⟨x, _, hxv⟩ | ⟨x, _, hxy⟩
        · cases x with
          | nil =>
            obtain rfl : '"' :: v = y := hxv
            exact absurd List.mem_cons_self hy
          | cons d x =>
            obtain ⟨_, rfl⟩ := List.cons.inj hxv
            exact fun c hc => hv c (List.mem_append_right x hc)
        · exact absurd (hxy ▸ List.mem_append_right x List.mem_cons_self) hy
      rw [hsx, List.append_assoc] at hs
      exact hs.not_closing hclosing
  · exact h

/-! ## Readers -/

/-- A reader of declarations does the same when a seam is put behind. -/
theorem stable_of_ends {written : α → Text → Prop}
    (hread : ∀ {t a r}, read t = some (a, r) ↔ ∃ w, written a w ∧ t = w ++ r)
    (hends : ∀ {a w}, written a w → Ends w) (hs : Seam s) : Text.Stable read s := by
  intro t
  cases h : read t with
  | some ar =>
    obtain ⟨w, hw, rfl⟩ := hread.1 h
    exact hread.2 ⟨w, hw, List.append_assoc w ar.2 s⟩
  | none =>
    by_contra hne
    obtain ⟨⟨a, r⟩, har⟩ := Option.ne_none_iff_exists'.1 hne
    obtain ⟨w, hw, heq⟩ := hread.1 har
    obtain ⟨r', rfl, _⟩ := (hends hw).eq_append hs heq
    rw [hread.2 ⟨w, hw, rfl⟩] at h
    cases h

theorem stable_table? (hs : Seam s) : Text.Stable table? s :=
  stable_of_ends table?_eq_some_iff WrittenTable.ends hs

theorem stable_column? (hs : Seam s) : Text.Stable column? s :=
  stable_of_ends column?_eq_some_iff WrittenColumn.ends hs

/-- No declaration starts in a text without a quote. -/
theorem misses_of_quote_not_mem {l : Text} (hread : LedBy l read) (hs : '"' ∉ s) :
    Text.Misses read s [] :=
  misses_of_lead hread hs fun _ h => nomatch h

/-! ## Extraction -/

/-- The next declaration is the same, and at the same place, when a seam is put behind. -/
theorem next?_append_right (hs : Seam s) :
    Cursor.next? ⟨i, t ++ s⟩ =
      (Cursor.next? ⟨i, t⟩).map fun (m, next) => (m, ⟨next.offset, next.rest ++ s⟩) := by
  rw [Cursor.next?, Cursor.next?, Text.find?_append_right (stable_column? hs)
    (misses_of_quote_not_mem ledBy_column? hs.1), Option.map_map, Option.map_map]
  rfl

/-- A scan finds the same declarations at the same places when a seam is put behind. -/
theorem scan_append_right (hs : Seam s) (cursor : Cursor) :
    Cursor.scan ⟨cursor.offset, cursor.rest ++ s⟩ = cursor.scan := by
  induction cursor using Cursor.scan.induct with
  | case1 cursor hnext =>
    rw [scan_of_next?_eq_none hnext, scan_of_next?_eq_none]
    rw [next?_append_right hs, hnext]
    rfl
  | case2 cursor m next hnext ih =>
    rw [scan_of_next?_eq_some hnext, ← ih]
    refine scan_of_next?_eq_some ?_
    rw [next?_append_right hs, hnext]
    rfl

theorem tableName_append_right (hs : Seam s) : tableName (t ++ s) = tableName t := by
  rw [tableName, Text.find?_append_right (stable_table? hs)
    (misses_of_quote_not_mem ledBy_table? hs.1), Option.map_map]
  rfl

/-- The same table is extracted when a seam is put behind. -/
theorem ofText_append_right (hs : Seam s) : Schema.ofText (t ++ s) = Schema.ofText t := by
  have hscan : scan (t ++ s) = scan t := scan_append_right hs (Cursor.ofText t)
  rw [Schema.ofText, Schema.ofText, tableName_append_right hs, hscan]

/-- A text opens with a table as before when a seam is put behind. -/
theorem opensWithTable_append_right (hs : Seam s) :
    opensWithTable (t ++ s) = opensWithTable t := by
  rw [opensWithTable, opensWithTable, skipBlanks, List.dropWhile_append, ← skipBlanks]
  split
  · rename_i ht
    -- Nothing but blanks stands in front, and behind it there is no quote.
    rw [List.isEmpty_iff.1 ht, ← skipBlanks]
    have hnone : table? (skipBlanks s) = none := by
      by_contra hne
      have hquote : '"' ∉ skipBlanks s := fun hmem =>
        hs.1 ((List.dropWhile_sublist _).subset hmem)
      have hlead := (ledBy_table? _ hne).1
      rw [lead_eq_none hquote] at hlead
      cases hlead
    rw [hnone]
    rfl
  · rw [stable_table? hs, Option.isSome_map]

end Declaration
end TablePackage
