import TablePackage.Proofs.Declaration.Recovery
import TablePackage.Proofs.Lines

/-!
# The spans of declarations

A scan goes from left to right and never looks back into a declaration that it has found. It
still finds every declaration that is written in a text: two of them cannot overlap, since none
starts inside another (`WrittenColumn.misses_tail`), and how one is written tells its column and
where it ends.

* `append_column_cases`: where a declaration may stand in a text whose first one is known;
* `mem_scan_iff`: a scan finds what is written, wherever it is written;
* `pairwise_scan`: the spans of a scan are in order and do not overlap;
* `scan_finds_spans`: the spans of a scan are exactly those of the written declarations.
-/

namespace TablePackage

namespace Declaration

open Ascii

variable {b r t u v w w' : Text} {c c' : Column} {cursor : Cursor} {m : ColumnMatch}

/-! ## Declarations in a text -/

/-- How a declaration is written tells its column. -/
theorem WrittenColumn.unique (h : WrittenColumn c w) (h' : WrittenColumn c' w) : c = c' := by
  have hread : column? (w ++ []) = some (c, []) := column?_eq_some_iff.2 ⟨w, h, rfl⟩
  have hread' : column? (w ++ []) = some (c', []) := column?_eq_some_iff.2 ⟨w, h', rfl⟩
  exact (Prod.mk.inj (Option.some.inj (hread.symm.trans hread'))).1

/-- At one place of a text, only one declaration is written. -/
theorem WrittenColumn.eq_of_append_eq (h : WrittenColumn c w) (h' : WrittenColumn c' w')
    (heq : w ++ v = w' ++ r) : w = w' ∧ v = r := by
  have hread : column? (w ++ v) = some (c, v) := column?_eq_some_iff.2 ⟨w, h, rfl⟩
  have hread' : column? (w ++ v) = some (c', r) := column?_eq_some_iff.2 ⟨w', h', heq⟩
  obtain ⟨-, rfl⟩ := Prod.mk.inj (Option.some.inj (hread.symm.trans hread'))
  exact ⟨List.append_cancel_right heq, rfl⟩

theorem WrittenColumn.ne_nil (h : WrittenColumn c w) : w ≠ [] := by
  cases h
  simp

/-- A declaration in a text whose first one stands behind `b` is that one, or it stands behind
    it. -/
theorem append_column_cases (hb : Text.Misses column? b (w' ++ r)) (hw' : WrittenColumn c' w')
    (hw : WrittenColumn c w) (heq : b ++ (w' ++ r) = u ++ (w ++ v)) :
    (u = b ∧ w = w') ∨ ∃ u', u = b ++ (w' ++ u') ∧ r = u' ++ (w ++ v) := by
  have hread : column? (w ++ v) ≠ none := by
    rw [column?_eq_some_iff.2 ⟨w, hw, rfl⟩]
    exact Option.some_ne_none _
  rcases List.append_eq_append_iff.1 heq with ⟨y, rfl, hy⟩ | ⟨y, rfl, hy⟩
  · rcases List.append_eq_append_iff.1 hy with ⟨z, rfl, hz⟩ | ⟨z, rfl, hz⟩
    · exact .inr ⟨z, rfl, hz⟩
    cases y with
    | nil => exact .inl ⟨List.append_nil b, (hw.eq_of_append_eq hw' hy.symm).1⟩
    | cons d y =>
      cases z with
      | nil => exact .inr ⟨[], by simp, hz.symm⟩
      | cons e z =>
        -- It would start inside the first one.
        have hmisses := Text.misses_iff.1 (hw'.misses_tail (s := r)) y (e :: z) rfl
          (List.cons_ne_nil e z)
        exact absurd (hz ▸ hmisses) hread
  · cases y with
    | nil =>
      obtain ⟨rfl, -⟩ := hw.eq_of_append_eq hw' hy
      exact .inl ⟨(List.append_nil u).symm, rfl⟩
    | cons d y =>
      -- It would start in front of the first one.
      have hmisses := Text.misses_iff.1 hb u (d :: y) rfl (List.cons_ne_nil d y)
      exact absurd (hy ▸ hmisses) hread

/-! ## Declarations in a scan -/

/-- A scan finds a declaration where one is written. -/
theorem mem_scan_iff :
    m ∈ cursor.scan ↔ ∃ u v, cursor.rest = u ++ (m.text ++ v) ∧ WrittenColumn m.column m.text ∧
      m.start = cursor.offset + u.length ∧ m.stop = m.start + m.text.length := by
  induction cursor using Cursor.scan.induct with
  | case1 cursor hnext =>
    rw [scan_of_next?_eq_none hnext]
    refine ⟨fun h => absurd h List.not_mem_nil, ?_⟩
    rintro ⟨u, v, hrest, hw, -, -⟩
    obtain ⟨hmisses, -⟩ := Text.misses_of_find?_eq_none (Option.map_eq_none_iff.1 hnext)
    have hnone := Text.misses_iff.1 hmisses u (m.text ++ v) hrest
      (List.append_ne_nil_of_left_ne_nil hw.ne_nil v)
    rw [List.append_nil, column?_eq_some_iff.2 ⟨m.text, hw, rfl⟩] at hnone
    cases hnone
  | case2 cursor found next hnext ih =>
    obtain ⟨b, hrest, hmisses, hfound, hstart, hstop, hoffset⟩ := exists_of_next?_eq_some hnext
    rw [scan_of_next?_eq_some hnext, List.mem_cons, ih, hrest]
    constructor
    · rintro (rfl | ⟨u, v, hnextRest, hw, hmstart, hmstop⟩)
      · exact ⟨b, next.rest, rfl, hfound, hstart, hstop⟩
      · refine ⟨b ++ (found.text ++ u), v, ?_, hw, ?_, hmstop⟩
        · rw [hnextRest]
          simp only [List.append_assoc]
        · rw [hmstart, hoffset, hstop, hstart]
          simp only [List.length_append, Nat.add_assoc]
    · rintro ⟨u, v, heq, hw, hmstart, hmstop⟩
      rcases append_column_cases hmisses hfound hw heq with ⟨rfl, htext⟩ | ⟨u', rfl, hu'⟩
      · have hcolumn : m.column = found.column := (htext ▸ hw).unique hfound
        have hmstart' : m.start = found.start := hmstart.trans hstart.symm
        refine .inl ?_
        change ColumnMatch.mk m.column m.start m.stop m.text = found
        rw [hmstop, hmstart', hcolumn, htext, ← hstop]
      · refine .inr ⟨u', v, hu', hw, ?_, hmstop⟩
        rw [hmstart, hoffset, hstop, hstart]
        simp only [List.length_append, Nat.add_assoc]

/-- The spans of a scan are in order and do not overlap. -/
theorem pairwise_scan (cursor : Cursor) :
    cursor.scan.Pairwise fun m m' => m.stop ≤ m'.start := by
  induction cursor using Cursor.scan.induct with
  | case1 cursor hnext =>
    rw [scan_of_next?_eq_none hnext]
    exact .nil
  | case2 cursor found next hnext ih =>
    obtain ⟨_, _, _, _, _, _, hoffset⟩ := exists_of_next?_eq_some hnext
    rw [scan_of_next?_eq_some hnext]
    refine .cons (fun m hm => ?_) ih
    obtain ⟨u, _, _, _, hstart, _⟩ := mem_scan_iff.1 hm
    omega

/-! ## Spans -/

/-- A scan accepts exactly what is written, and loses nothing. The offsets that a declaration
    found by it has are exactly those between which one is written. The spans are in order and do
    not overlap, each with its text; and the name of a column, and whether it is a key, are those
    with which its text is written. -/
theorem scan_finds_spans (t : Text) :
    (∀ i j : Nat, (∃ m ∈ scan t, m.start = i ∧ m.stop = j) ↔
      j ≤ t.length ∧ ∃ c, WrittenColumn c (slice t (some i) (some j))) ∧
    ((scan t).Pairwise fun m m' => m.stop ≤ m'.start) ∧
    ∀ m ∈ scan t, m.start < m.stop ∧ m.text = slice t (some m.start) (some m.stop) ∧
      ∀ c, WrittenColumn c m.text ↔ c = m.column := by
  have hmem : ∀ m, m ∈ scan t ↔ (m.stop ≤ t.length ∧
      slice t (some m.start) (some m.stop) = m.text) ∧ WrittenColumn m.column m.text := by
    intro m
    rw [scan, mem_scan_iff, Cursor.ofText]
    dsimp only
    constructor
    · rintro ⟨u, v, ht, hw, hstart, hstop⟩
      exact ⟨(slice_eq_iff hw.ne_nil).2 ⟨u, v, ht, by omega, hstop⟩, hw⟩
    · rintro ⟨hslice, hw⟩
      obtain ⟨u, v, ht, hstart, hstop⟩ := (slice_eq_iff hw.ne_nil).1 hslice
      exact ⟨u, v, ht, hw, by omega, hstop⟩
  refine ⟨fun i j => ⟨?_, ?_⟩, pairwise_scan _, fun m hm => ?_⟩
  · rintro ⟨m, hm, rfl, rfl⟩
    obtain ⟨⟨hstop, hslice⟩, hw⟩ := (hmem m).1 hm
    exact ⟨hstop, m.column, hslice ▸ hw⟩
  · rintro ⟨hj, c, hw⟩
    exact ⟨⟨c, i, j, slice t (some i) (some j)⟩, (hmem _).2 ⟨⟨hj, rfl⟩, hw⟩, rfl, rfl⟩
  · obtain ⟨hslice, hw⟩ := (hmem m).1 hm
    obtain ⟨u, v, -, hstart, hstop⟩ := (slice_eq_iff hw.ne_nil).1 hslice
    have hpos := List.length_pos_iff.2 hw.ne_nil
    exact ⟨by omega, hslice.2.symm, fun c => ⟨fun hc => hc.unique hw, fun hc => hc ▸ hw⟩⟩

/-- A declaration is found at its place behind the start of another one. -/
theorem scan_finds_spans_half_written :
    let t : Text := "table_attr(\"table_attr ( table_attr(\"B\" ) .PrimaryKey\n;;"
    ∃ m ∈ scan t, m.start = 25 ∧ m.stop = 55 ∧ m.text = slice t (some 25) (some 55) ∧
      m.column = ⟨"B", true⟩ := by
  intro t
  have hB : WrittenColumn ⟨"B", true⟩ (slice t (some 25) (some 55)) :=
    .mk (@QuotedName.mk "table_attr" "B" "table_attr" [] [] " " " "
        (by decide) (by decide) (by decide) (by decide) (by decide) (by decide))
      (@WrittenMark.mark ".PrimaryKey" "\n" (by decide) (by decide))
  obtain ⟨hspans, -, hmatches⟩ := scan_finds_spans t
  obtain ⟨m, hm, hstart, hstop⟩ := (hspans 25 55).2 ⟨by decide, _, hB⟩
  obtain ⟨-, htext, hcolumn⟩ := hmatches m hm
  rw [hstart, hstop] at htext
  exact ⟨m, hm, hstart, hstop, htext, ((hcolumn _).1 (htext ▸ hB)).symm⟩

end Declaration
end TablePackage
