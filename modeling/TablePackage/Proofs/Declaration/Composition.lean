import TablePackage.Proofs.Declaration.Recovery

/-!
# Texts one after the other

A declaration ends with the only semicolon that it has, so none reaches across a semicolon. Where
the first of two texts ends with one, the second is scanned as if nothing stood in front of it,
whatever the first may have begun and the second may go on with.

* `settledBy_table?`, `settledBy_column?`: a declaration is read up to its semicolon only;
* `scan_append`: the scan of two texts is that of the first and that of the second;
* `extraction_is_compositional`: so is the table that is extracted of them.
-/

namespace TablePackage

/-- A declaration with its offsets moved on by `i`. -/
def ColumnMatch.shift (i : Nat) (m : ColumnMatch) : ColumnMatch :=
  { m with start := i + m.start, stop := i + m.stop }

namespace Declaration

open Ascii

variable {a b k m n q t w : Text} {c : Column} {cs ds : List Column} {isKey : Bool}

/-! ## Semicolons -/

theorem QuotedName.semicolon_not_mem (h : QuotedName k n q) (hk : ';' ∉ k) : ';' ∉ q := by
  cases h with
  | mk hq h₁ h₂ h₃ h₄ hn =>
    simp only [List.mem_append, List.mem_cons, not_or]
    exact ⟨hq.not_mem (by decide) hk, h₁.not_mem rfl, by decide, h₂.not_mem rfl, by decide,
      hn.not_mem rfl, by decide, h₃.not_mem rfl, by decide, h₄.not_mem rfl⟩

theorem WrittenMark.semicolon_not_mem (h : WrittenMark isKey m) : ';' ∉ m := by
  cases h with
  | none => exact List.not_mem_nil
  | mark hq hb =>
    rw [List.mem_append, not_or]
    exact ⟨hq.not_mem (by decide) (by decide), hb.not_mem rfl⟩

theorem WrittenTable.isClosedBy (h : WrittenTable n w) : Text.IsClosedBy ';' w := by
  obtain ⟨hq⟩ := h
  exact ⟨_, rfl, hq.semicolon_not_mem (by decide)⟩

theorem WrittenColumn.isClosedBy (h : WrittenColumn c w) : Text.IsClosedBy ';' w := by
  obtain ⟨hq, hm⟩ := h
  refine ⟨_, (List.append_assoc ..).symm, ?_⟩
  rw [List.mem_append, not_or]
  exact ⟨hq.semicolon_not_mem (by decide), hm.semicolon_not_mem⟩

theorem settledBy_table? : Text.SettledBy ';' table? :=
  Text.settledBy_of_isClosedBy WrittenTable table?_eq_some_iff WrittenTable.isClosedBy

theorem settledBy_column? : Text.SettledBy ';' column? :=
  Text.settledBy_of_isClosedBy WrittenColumn column?_eq_some_iff WrittenColumn.isClosedBy

/-! ## Scans -/

/-- Where a scan starts only moves the offsets that it finds. -/
theorem scan_shift (i : Nat) (cursor : Cursor) :
    Cursor.scan ⟨i + cursor.offset, cursor.rest⟩ = cursor.scan.map (ColumnMatch.shift i) := by
  induction cursor using Cursor.scan.induct with
  | case1 cursor hnext =>
    rw [scan_of_next?_eq_none hnext]
    exact scan_of_next?_eq_none (Option.map_eq_none_iff.2 (Option.map_eq_none_iff.1 hnext))
  | case2 cursor m next hnext ih =>
    obtain ⟨f, hf, he⟩ := Option.map_eq_some_iff.1 hnext
    rw [scan_of_next?_eq_some hnext, List.map_cons, ← ih]
    obtain ⟨rfl, rfl⟩ := Prod.mk.inj he
    refine scan_of_next?_eq_some (Option.map_eq_some_iff.2 ⟨f, hf, ?_⟩)
    simp only [ColumnMatch.shift, Nat.add_assoc]

/-- Behind a text that ends with a semicolon, a scan goes on as from the start of what follows. -/
theorem scan_append (b : Text) (cursor : Cursor)
    (ha : cursor.rest = [] ∨ cursor.rest.getLast? = some ';') :
    Cursor.scan ⟨cursor.offset, cursor.rest ++ b⟩ =
      cursor.scan ++ Cursor.scan ⟨cursor.offset + cursor.rest.length, b⟩ := by
  -- Along the scan of the first text: what is left of it ends with a semicolon, too.
  induction cursor using Cursor.scan.induct with
  | case1 cursor hnext =>
    obtain ⟨hmisses, -⟩ := Text.misses_of_find?_eq_none (Option.map_eq_none_iff.1 hnext)
    rw [scan_of_next?_eq_none hnext, List.nil_append]
    exact scan_append_of_misses (settledBy_column?.misses_of_getLast? ha hmisses b)
  | case2 cursor m next hnext ih =>
    obtain ⟨u, hrest, hmisses, hm, hstart, hstop, hoffset⟩ := exists_of_next?_eq_some hnext
    have hnextRest : next.rest = [] ∨ next.rest.getLast? = some ';' := by
      rcases eq_or_ne next.rest [] with hnil | hne
      · exact .inl hnil
      · rcases ha with ha | ha
        · rw [hrest] at ha
          exact absurd (List.append_eq_nil_iff.1 (List.append_eq_nil_iff.1 ha).2).2 hne
        · rw [hrest, ← List.append_assoc, List.getLast?_append_of_ne_nil _ hne] at ha
          exact .inr ha
    have hmem : ';' ∈ m.text ++ next.rest := List.mem_append_left _ hm.isClosedBy.mem
    have hmisses' := settledBy_column?.misses hmem hmisses b
    rw [List.append_assoc] at hmisses'
    have hlength : cursor.offset + cursor.rest.length = next.offset + next.rest.length := by
      rw [hrest, hoffset, hstop, hstart]
      simp only [List.length_append, Nat.add_assoc]
    rw [scan_of_next?_eq_some hnext, List.cons_append, hlength, ← ih hnextRest, hrest,
      List.append_assoc, List.append_assoc, scan_append_of_misses hmisses',
      scan_append_of_column hm, ← hstart, ← hstop, hoffset]

/-! ## Tables -/

/-- A table that is declared has a name. -/
theorem tableName_eq_nil_iff : tableName t = [] ↔ Text.find? table? t = none := by
  constructor
  · intro h
    by_contra hne
    obtain ⟨f, hf⟩ := Option.ne_none_iff_exists'.1 hne
    obtain ⟨s, -, -, hread, -⟩ := Text.misses_of_find?_eq_some hf
    obtain ⟨w, hw, -⟩ := table?_eq_some_iff.1 hread
    rw [tableName, hf] at h
    exact hw.isName.1 h
  · intro h
    rw [tableName, h]
    rfl

/-- The table of two texts is that of the first one, if there is one. -/
theorem tableName_append (ha : a = [] ∨ a.getLast? = some ';') (b : Text) :
    tableName (a ++ b) = if tableName a = [] then tableName b else tableName a := by
  split
  · rename_i h
    obtain ⟨hmisses, -⟩ := Text.misses_of_find?_eq_none (tableName_eq_nil_iff.1 h)
    rw [tableName, Text.find?_append_of_misses (settledBy_table?.misses_of_getLast? ha hmisses b),
      Option.map_map]
    rfl
  · rename_i h
    obtain ⟨f, hf⟩ := Option.ne_none_iff_exists'.1 (mt tableName_eq_nil_iff.2 h)
    have hmem : ∀ y, table? y = some (f.value, f.rest) → ';' ∈ y := by
      intro y hy
      obtain ⟨w, hw, rfl⟩ := table?_eq_some_iff.1 hy
      exact List.mem_append_left f.rest hw.isClosedBy.mem
    obtain ⟨g, hg, -, hvalue, -⟩ := settledBy_table?.find?_append hf hmem b
    rw [tableName, hg, tableName, hf, Option.map_some, Option.map_some, hvalue]

/-- The key of two lists of columns is that of the second one, if there is one. -/
theorem key_ofColumns_append_columns (cs : List Column) (hds : ∀ c ∈ ds, c.name ≠ []) :
    (Schema.ofColumns n (cs ++ ds)).key =
      if (Schema.ofColumns n ds).key = [] then (Schema.ofColumns n cs).key
      else (Schema.ofColumns n ds).key := by
  cases hlast : (ds.filter (·.isKey)).getLast? with
  | none =>
    have hkey : (Schema.ofColumns n ds).key = [] := by rw [Schema.ofColumns, hlast]; rfl
    rw [if_pos hkey, Schema.ofColumns, List.filter_append, List.getLast?_append, hlast,
      Option.none_or]
    rfl
  | some c =>
    have hc := hds c (List.mem_filter.1 (List.mem_of_getLast? hlast)).1
    have hkey : (Schema.ofColumns n ds).key = c.name := by rw [Schema.ofColumns, hlast]; rfl
    rw [hkey, if_neg hc, Schema.ofColumns, List.filter_append, List.getLast?_append, hlast,
      Option.some_or]
    rfl

/-! ## Extraction -/

/-- Extraction is compositional. If the first of two texts is empty or ends with a semicolon, a scan
    of both finds what a scan of the first finds, and then what a scan of the second finds, moved on
    by the length of the first. The columns of both are those of the first and those of the second;
    the table is that of the first, if it has one, and the key is that of the second, if it has
    one. -/
theorem extraction_is_compositional (ha : a = [] ∨ a.getLast? = some ';') (b : Text) :
    scan (a ++ b) = scan a ++ (scan b).map (ColumnMatch.shift a.length) ∧
      (Schema.ofText (a ++ b)).columns = (Schema.ofText a).columns ++ (Schema.ofText b).columns ∧
      (Schema.ofText (a ++ b)).table =
        (if (Schema.ofText a).table = [] then (Schema.ofText b).table
        else (Schema.ofText a).table) ∧
      (Schema.ofText (a ++ b)).key =
        if (Schema.ofText b).key = [] then (Schema.ofText a).key else (Schema.ofText b).key := by
  have hscan : scan (a ++ b) = scan a ++ (scan b).map (ColumnMatch.shift a.length) := by
    have hcursor := scan_append b (Cursor.ofText a) ha
    have hshift := scan_shift a.length (Cursor.ofText b)
    simp only [Cursor.ofText, Nat.zero_add, Nat.add_zero] at hcursor hshift
    rw [scan, Cursor.ofText, hcursor, hshift]
    rfl
  have hcolumns : (scan (a ++ b)).map (·.column) =
      (scan a).map (·.column) ++ (scan b).map (·.column) := by
    rw [hscan, List.map_append, List.map_map]
    rfl
  refine ⟨hscan, hcolumns, tableName_append ha b, ?_⟩
  have hnames : ∀ c ∈ (scan b).map (·.column), c.name ≠ [] := fun c hc => by
    obtain ⟨m, hm, rfl⟩ := List.mem_map.1 hc
    exact (isName_of_mem_scan hm).1
  have hkey := key_ofColumns_append_columns (n := []) ((scan a).map (·.column)) hnames
  rw [← hcolumns] at hkey
  exact hkey

/-- Between two declarations, a third one is begun in the first text and ended in the second. -/
theorem extraction_is_compositional_torn :
    let a : Text := "table_attr(\"A\").primarykey;table_attr ( \"B\" ;"
    let b : Text := ") ; table_attr(\"C\") .PrimaryKey;table_name(\"T\");"
    (a = [] ∨ a.getLast? = some ';') ∧
      scan (a ++ b) = scan a ++ [⟨⟨"C", true⟩, 49, 77, "table_attr(\"C\") .PrimaryKey;"⟩] ∧
      Schema.ofText (a ++ b) = ⟨"T", [⟨"A", true⟩, ⟨"C", true⟩], "C"⟩ := by
  intro a b
  have ha : a = [] ∨ a.getLast? = some ';' := .inr (by decide)
  have hscana : scan a = [⟨⟨"A", true⟩, 0, 27, "table_attr(\"A\").primarykey;"⟩] := by
    have hnext : Cursor.next? ⟨0, a⟩ =
        some (⟨⟨"A", true⟩, 0, 27, "table_attr(\"A\").primarykey;"⟩,
          ⟨27, "table_attr ( \"B\" ;"⟩) := by decide +kernel
    have hnone : Cursor.next? ⟨27, "table_attr ( \"B\" ;"⟩ = none := by decide +kernel
    exact (scan_of_next?_eq_some hnext).trans (congrArg _ (scan_of_next?_eq_none hnone))
  have hscanb : scan b = [⟨⟨"C", true⟩, 4, 32, "table_attr(\"C\") .PrimaryKey;"⟩] := by
    have hnext : Cursor.next? ⟨0, b⟩ =
        some (⟨⟨"C", true⟩, 4, 32, "table_attr(\"C\") .PrimaryKey;"⟩,
          ⟨32, "table_name(\"T\");"⟩) := by decide +kernel
    have hnone : Cursor.next? ⟨32, "table_name(\"T\");"⟩ = none := by decide +kernel
    exact (scan_of_next?_eq_some hnext).trans (congrArg _ (scan_of_next?_eq_none hnone))
  obtain ⟨hscan, hcolumns, htable, hkey⟩ := extraction_is_compositional ha b
  have hA : Schema.ofText a = ⟨[], [⟨"A", true⟩], "A"⟩ := by
    rw [Schema.ofText, hscana]
    decide +kernel
  have hC : Schema.ofText b = ⟨"T", [⟨"C", true⟩], "C"⟩ := by
    rw [Schema.ofText, hscanb]
    decide +kernel
  rw [hA, hC] at hcolumns htable hkey
  refine ⟨ha, by rw [hscan, hscanb]; rfl, ?_⟩
  calc Schema.ofText (a ++ b)
      = ⟨(Schema.ofText (a ++ b)).table, (Schema.ofText (a ++ b)).columns,
          (Schema.ofText (a ++ b)).key⟩ := rfl
    _ = _ := by rw [hcolumns, htable, hkey]; rfl

end Declaration
end TablePackage
