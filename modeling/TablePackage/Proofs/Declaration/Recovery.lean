import TablePackage.Proofs.Declaration.Grammar

/-!
# Recovery of written declarations

A table and its columns, written one after the other with text between them, are read back as
they were written. The text between two declarations may be anything without a double quote, also
the start of a further declaration.

The argument is about what stands before the first quote of a text (`lead`). A declaration can
only be read where that is its keyword and one parenthesis, whatever blanks stand between them.
In front of a written declaration there is always more than that.

* `misses_of_lead`: no declaration starts in a text without a quote in front of one that is
  written;
* `WrittenTable.misses`: no column is read inside the declaration of a table;
* `map_column_scan`: the scan of written columns;
* `WrittenSchema.ofText_eq`, `extraction_recovers`: a written table is extracted with its columns
  and its key.
-/

namespace TablePackage

namespace Declaration

open Ascii

variable {α : Type} {read : Text → Option (α × Text)} {k l n q t u s r w : Text} {c : Column}
  {cs : List Column} {i : Nat}

/-! ## What stands before the first quote -/

/-- The characters of a text that are no blanks, in lower case. -/
def symbols (t : Text) : Text := (t.filter (!isBlank ·)).map Char.toLower

/-- The symbols before the first quote of a text, if it has a quote. -/
def lead : Text → Option Text
  | [] => none
  | c :: t => if c = '"' then some [] else (lead t).map (symbols [c] ++ ·)

theorem symbols_append (u s : Text) : symbols (u ++ s) = symbols u ++ symbols s := by
  rw [symbols, List.filter_append, List.map_append, symbols, symbols]

theorem symbols_blanks (h : Blanks u) : symbols u = [] := by
  rw [symbols, List.map_eq_nil_iff, List.filter_eq_nil_iff]
  intro c hc
  rw [h c hc]
  decide

/-- A text without blanks has all its characters for symbols. -/
theorem symbols_of_no_blank (h : ∀ c ∈ u, isBlank c = false) : symbols u = u.map Char.toLower := by
  rw [symbols, List.filter_eq_self.2 fun c hc => by rw [h c hc]; rfl]

theorem lead_quote (t : Text) : lead ('"' :: t) = some [] := if_pos rfl

/-- A text without a quote adds its symbols to what follows. -/
theorem lead_append (hu : '"' ∉ u) : lead (u ++ s) = (lead s).map (symbols u ++ ·) := by
  induction u with
  | nil =>
    rw [List.nil_append]
    exact Option.map_id'.symm
  | cons c u ih =>
    rw [List.mem_cons, not_or] at hu
    rw [List.cons_append, lead, if_neg (Ne.symm hu.1), ih hu.2, Option.map_map]
    refine Option.map_congr fun x _ => ?_
    rw [Function.comp_apply, ← List.append_assoc, ← symbols_append]
    rfl

theorem lead_eq_none (hu : '"' ∉ u) : lead u = none := by
  rw [← List.append_nil u, lead_append hu]
  rfl

/-! ## Where a declaration can be read -/

/-- A written name has two quotes, and its keyword and a parenthesis stand before the first. -/
theorem QuotedName.exists_quotes (h : QuotedName k n q) (hk : ∀ c ∈ k, isBlank c = false)
    (hquote : '"' ∉ k) : ∃ front back, q = front ++ '"' :: (n ++ '"' :: back) ∧
      '"' ∉ front ∧ '"' ∉ back ∧ symbols front = k ++ ['('] := by
  cases h with
  | @mk q b₁ b₂ b₃ b₄ hq h₁ h₂ h₃ h₄ hn =>
    refine ⟨q ++ (b₁ ++ '(' :: b₂), b₃ ++ ')' :: b₄, ?_, ?_, ?_, ?_⟩
    · simp only [List.append_assoc, List.cons_append]
    · simp only [List.mem_append, List.mem_cons, not_or]
      exact ⟨hq.not_mem (by decide) hquote, h₁.not_mem rfl, by decide, h₂.not_mem rfl⟩
    · simp only [List.mem_append, List.mem_cons, not_or]
      exact ⟨h₃.not_mem rfl, by decide, h₄.not_mem rfl⟩
    · rw [← List.singleton_append, symbols_append, symbols_append, symbols_append,
        symbols_blanks h₁, symbols_blanks h₂, symbols_of_no_blank (hq.isBlank_eq_false hk), hq]
      rfl

/-- A written name is led by its keyword and a parenthesis. -/
theorem QuotedName.lead (h : QuotedName k n q) (hk : ∀ c ∈ k, isBlank c = false)
    (hquote : '"' ∉ k) : lead (q ++ r) = some (k ++ ['(']) := by
  obtain ⟨front, back, rfl, hfront, _, hsymbols⟩ := h.exists_quotes hk hquote
  rw [List.append_assoc, lead_append hfront, List.cons_append, lead_quote, Option.map_some,
    List.append_nil, hsymbols]

/-- A written name does not start with a blank. -/
theorem QuotedName.head? (h : QuotedName k n q) (hk : ∀ c ∈ k, isBlank c = false) (hne : k ≠ []) :
    ∀ c ∈ (q ++ r).head?, isBlank c = false := by
  cases h with
  | @mk q b₁ b₂ b₃ b₄ hq h₁ h₂ h₃ h₄ hn =>
    cases q with
    | nil => exact absurd hq.symm hne
    | cons d q =>
      exact Text.forall_head?_cons (hq.isBlank_eq_false hk d List.mem_cons_self) _

/-- `read` only succeeds at a symbol from which on `l` stands before the first quote. -/
def LedBy (l : Text) (read : Text → Option (α × Text)) : Prop :=
  ∀ t, read t ≠ none → lead t = some l ∧ ∀ c ∈ t.head?, isBlank c = false

theorem ledBy_table? : LedBy "table_name(" table? := by
  intro t ht
  obtain ⟨⟨n, r⟩, h⟩ := Option.ne_none_iff_exists'.1 ht
  obtain ⟨w, ⟨hq⟩, rfl⟩ := table?_eq_some_iff.1 h
  rw [List.append_assoc]
  exact ⟨hq.lead (by decide) (by decide), hq.head? (by decide) (by decide)⟩

theorem ledBy_column? : LedBy "table_attr(" column? := by
  intro t ht
  obtain ⟨⟨c, r⟩, h⟩ := Option.ne_none_iff_exists'.1 ht
  obtain ⟨w, ⟨hq, _⟩, rfl⟩ := column?_eq_some_iff.1 h
  rw [List.append_assoc]
  exact ⟨hq.lead (by decide) (by decide), hq.head? (by decide) (by decide)⟩

/-- A text without a quote is missed, if what follows is led by enough symbols already. -/
theorem misses_of_lead (hread : LedBy l read) (hu : '"' ∉ u)
    (hs : ∀ l' ∈ lead s, l.length ≤ l'.length) : Text.Misses read u s := by
  refine Text.misses_iff.2 fun x y hxy hy => ?_
  by_contra hne
  obtain ⟨hlead, hhead⟩ := hread _ hne
  have hy' : '"' ∉ y := fun hmem => hu (hxy ▸ List.mem_append_right x hmem)
  rw [lead_append hy', Option.map_eq_some_iff] at hlead
  obtain ⟨l', hl', rfl⟩ := hlead
  have hlength := hs l' hl'
  -- The first character of `y` is one symbol too many.
  obtain ⟨c, y, rfl⟩ := List.exists_cons_of_ne_nil hy
  have hc : symbols [c] = [c.toLower] := symbols_of_no_blank fun d hd => by
    rw [List.mem_singleton.1 hd]
    exact hhead c rfl
  rw [← List.singleton_append, symbols_append, hc] at hlength
  simp only [List.length_append, List.length_cons] at hlength
  omega

/-- A text without a quote is missed in front of one, if it does not end in what leads. -/
theorem misses_before_quote (hread : LedBy l read) (hu : '"' ∉ u) (hl : ¬l <:+ symbols u) :
    Text.Misses read u ('"' :: s) := by
  refine Text.misses_iff.2 fun x y hxy _ => ?_
  by_contra hne
  have hy : '"' ∉ y := fun hmem => hu (hxy ▸ List.mem_append_right x hmem)
  have hlead := (hread _ hne).1
  rw [lead_append hy, lead_quote, Option.map_some, List.append_nil, Option.some.injEq] at hlead
  exact hl ⟨symbols x, by rw [hxy, symbols_append, hlead]⟩

/-- Nothing is read at a quote. -/
theorem LedBy.read_quote (hread : LedBy l read) (hl : l ≠ []) : read ('"' :: s) = none := by
  by_contra hne
  exact hl (Option.some.inj ((hread _ hne).1.symm.trans (lead_quote s)))

/-- A text without a quote is missed if it ends in a symbol that does not lead. -/
theorem misses_of_end {d : Char} (hread : LedBy l read) (hu : '"' ∉ u ++ [d])
    (hblank : isBlank d = false) (hd : d.toLower ∉ l) : Text.Misses read (u ++ [d]) s := by
  refine Text.misses_iff.2 fun x y hxy hy => ?_
  by_contra hne
  have hy' : '"' ∉ y := fun hmem => hu (hxy ▸ List.mem_append_right x hmem)
  have hlead := (hread _ hne).1
  rw [lead_append hy', Option.map_eq_some_iff] at hlead
  obtain ⟨l', _, rfl⟩ := hlead
  have hlast : d ∈ y := by
    have h := congrArg List.getLast? hxy
    rw [List.getLast?_concat, List.getLast?_append_of_ne_nil x hy] at h
    exact List.mem_of_getLast? h.symm
  have hmem : d.toLower ∈ symbols y :=
    List.mem_map_of_mem (List.mem_filter.2 ⟨hlast, by rw [hblank]; rfl⟩)
  exact hd (List.mem_append_left l' hmem)

/-- A name does not contain the parenthesis that leads a declaration. -/
theorem not_suffix_of_isName (hn : IsName n) : ¬k ++ ['('] <:+ symbols n := by
  intro h
  have hmem : '(' ∈ symbols n := h.subset (List.mem_append_right k List.mem_cons_self)
  obtain ⟨c, hc, hlower⟩ := List.mem_map.1 hmem
  obtain rfl := (toLower_eq_iff (by decide)).1 hlower
  exact hn.not_mem rfl (List.mem_filter.1 hc).1

/-- No column is read from the first quote of a declaration on. -/
theorem misses_behind_quote (hn : IsName n) (hu : '"' ∉ u) :
    Text.Misses column? ('"' :: (n ++ '"' :: (u ++ [';']))) s := by
  have hquote : ∀ t, column? ('"' :: t) = none := fun t =>
    ledBy_column?.read_quote (by decide)
  refine ⟨hquote _, Text.misses_append.2 ⟨?_, hquote _, ?_⟩⟩
  · exact misses_before_quote ledBy_column? (hn.not_mem rfl)
      (not_suffix_of_isName (k := "table_attr") hn)
  · refine misses_of_end ledBy_column? ?_ (by decide) (by decide)
    rw [List.mem_append, not_or]
    exact ⟨hu, by decide⟩

/-- No column is read inside the declaration of a table. -/
theorem WrittenTable.misses (h : WrittenTable n w) : Text.Misses column? w s := by
  have hn := h.isName
  obtain ⟨hq⟩ := h
  obtain ⟨front, back, rfl, hfront, hback, hsymbols⟩ := hq.exists_quotes (by decide) (by decide)
  simp only [List.append_assoc, List.cons_append]
  refine Text.misses_append.2 ⟨misses_before_quote ledBy_column? hfront ?_,
    misses_behind_quote hn hback⟩
  rw [hsymbols]
  decide

/-- No column is read inside the declaration of another one. -/
theorem WrittenColumn.misses_tail (h : WrittenColumn c w) : Text.Misses column? w.tail s := by
  have hn := h.isName
  obtain ⟨hq, hm⟩ := h
  rename_i n q m isKey
  have hhead := hq.head? (r := []) (by decide) (by decide)
  obtain ⟨front, back, rfl, hfront, hback, hsymbols⟩ := hq.exists_quotes (by decide) (by decide)
  cases front with
  | nil => cases hsymbols
  | cons d front =>
    have hd : symbols [d] = [d.toLower] := symbols_of_no_blank fun e he => by
      rw [List.mem_singleton.1 he]
      exact hhead d rfl
    rw [← List.singleton_append, symbols_append, hd] at hsymbols
    rw [List.mem_cons, not_or] at hfront
    have htail : '"' ∉ back ++ m := by
      rw [List.mem_append, not_or]
      exact ⟨hback, hm.quote_not_mem⟩
    have hassoc : (d :: front ++ '"' :: (n ++ '"' :: back) ++ (m ++ [';'])).tail =
        front ++ '"' :: (n ++ '"' :: (back ++ m ++ [';'])) := by
      simp only [List.cons_append, List.tail_cons, List.append_assoc]
    rw [hassoc]
    refine Text.misses_append.2 ⟨misses_before_quote ledBy_column? hfront.2 fun hsuffix => ?_,
      misses_behind_quote hn htail⟩
    -- Without its first letter, the keyword is too short to lead.
    have hlength : (symbols front).length + 1 = 11 := congrArg List.length hsymbols
    have hle : 11 ≤ (symbols front).length := hsuffix.length_le
    omega

/-- A written table is led by its whole keyword. -/
theorem WrittenTable.length_lead (h : WrittenTable n w) :
    ∀ l ∈ Declaration.lead (w ++ r), 11 ≤ l.length := by
  intro l hl
  obtain ⟨hq⟩ := h
  rw [List.append_assoc, hq.lead (by decide) (by decide)] at hl
  obtain rfl := Option.some.inj hl
  decide

/-- A written column is led by its whole keyword. -/
theorem WrittenColumn.length_lead (h : WrittenColumn c w) :
    ∀ l ∈ Declaration.lead (w ++ r), 11 ≤ l.length := by
  intro l hl
  obtain ⟨hq, _⟩ := h
  rw [List.append_assoc, hq.lead (by decide) (by decide)] at hl
  obtain rfl := Option.some.inj hl
  decide

/-! ## Written schemas -/

/-- How columns are written: one after the other, with a text without quotes behind each. -/
inductive WrittenColumns : List Column → Text → Prop
  | nil : WrittenColumns [] []
  | cons {c : Column} {cs : List Column} {w u t : Text} : WrittenColumn c w → '"' ∉ u →
    WrittenColumns cs t → WrittenColumns (c :: cs) (w ++ (u ++ t))

/-- How a table is written: with a text without quotes behind it, and its columns after that. -/
inductive WrittenSchema (n : Text) (cs : List Column) : Text → Prop
  | mk {b w u t : Text} : Blanks b → WrittenTable n w → '"' ∉ u → WrittenColumns cs t →
    WrittenSchema n cs (b ++ (w ++ (u ++ t)))

/-- Written columns are led by a whole keyword, if there are any. -/
theorem WrittenColumns.length_lead (h : WrittenColumns cs t) : ∀ l ∈ lead t, 11 ≤ l.length := by
  cases h with
  | nil => exact fun _ hl => nomatch hl
  | cons hc _ _ => exact hc.length_lead

/-- The scan of written columns finds them, whatever stands between them. -/
theorem map_column_scan (h : WrittenColumns cs t) (hu : '"' ∉ u) :
    (Cursor.scan ⟨i, u ++ t⟩).map (·.column) = cs := by
  induction h generalizing u i with
  | nil =>
    rw [List.append_nil, scan_eq_nil (misses_of_lead ledBy_column? hu fun _ h => by cases h)]
    rfl
  | cons hc hv ht ih =>
    rw [scan_append_of_misses
      (misses_of_lead ledBy_column? hu (WrittenColumns.cons hc hv ht).length_lead)]
    rw [scan_append_of_column hc, List.map_cons, ih hv]

/-- A written table is found where it stands. -/
theorem tableName_eq (hu : '"' ∉ u) (hw : WrittenTable n w) : tableName (u ++ (w ++ r)) = n := by
  rw [tableName, Text.find?_append_of_misses (misses_of_lead ledBy_table? hu hw.length_lead),
    Text.find?_of_read_append (table?_eq_some_iff.2 ⟨w, hw, rfl⟩)]
  rfl

/-- A text opens with a table where one is written behind blanks. -/
theorem opensWithTable_append (hu : Blanks u) (hw : WrittenTable n w) :
    opensWithTable (u ++ (w ++ r)) = true := by
  have hhead : ∀ c ∈ (w ++ r).head?, isBlank c = false := by
    obtain ⟨hq⟩ := hw
    rw [List.append_assoc]
    exact hq.head? (by decide) (by decide)
  rw [opensWithTable, skipBlanks_append hu hhead, table?_eq_some_iff.2 ⟨w, hw, rfl⟩]
  rfl

/-! ## The key of a table -/

/-- The last column flagged as a key gives the key. -/
theorem key_ofColumns_append (before : List Column) {after : List Column} (hc : c.isKey = true)
    (hafter : ∀ d ∈ after, d.isKey = false) :
    (Schema.ofColumns n (before ++ c :: after)).key = c.name := by
  have hnone : after.filter (·.isKey) = [] :=
    List.filter_eq_nil_iff.2 fun d hd => by rw [hafter d hd]; decide
  rw [Schema.ofColumns, List.filter_append, List.filter_cons_of_pos hc, hnone,
    List.getLast?_append_of_ne_nil _ (List.cons_ne_nil c [])]
  rfl

/-- No key is named where no column is flagged as one. -/
theorem key_ofColumns_eq_nil (hcs : ∀ c ∈ cs, c.isKey = false) :
    (Schema.ofColumns n cs).key = [] := by
  have hnone : cs.filter (·.isKey) = [] :=
    List.filter_eq_nil_iff.2 fun d hd => by rw [hcs d hd]; decide
  rw [Schema.ofColumns, hnone]
  rfl

/-! ## Extraction -/

/-- The schema of a written table is that of its columns. -/
theorem WrittenSchema.ofText_eq (h : WrittenSchema n cs t) :
    opensWithTable t = true ∧ Schema.ofText t = Schema.ofColumns n cs := by
  obtain ⟨hb, hw, hu, hcs⟩ := h
  rename_i b w u t
  have hb' : '"' ∉ b := hb.not_mem rfl
  have hscan : (scan (b ++ (w ++ (u ++ t)))).map (·.column) = cs := by
    rw [scan, Cursor.ofText,
      scan_append_of_misses (misses_of_lead ledBy_column? hb' hw.length_lead),
      scan_append_of_misses hw.misses]
    exact map_column_scan hcs hu
  refine ⟨opensWithTable_append hb hw, ?_⟩
  rw [Schema.ofText, hscan, tableName_eq hb' hw]

/-- A written table opens its text, and it is extracted with its name, its columns in their
    order, and the last of those flagged as a key. -/
theorem extraction_recovers (h : WrittenSchema n cs t) :
    opensWithTable t = true ∧
      (Schema.ofText t).table = n ∧
      (Schema.ofText t).columns = cs ∧
      (∀ before c after, cs = before ++ c :: after → c.isKey = true →
        (∀ d ∈ after, d.isKey = false) → (Schema.ofText t).key = c.name) ∧
      ((∀ c ∈ cs, c.isKey = false) → (Schema.ofText t).key = []) := by
  obtain ⟨hopens, hschema⟩ := h.ofText_eq
  rw [hschema]
  refine ⟨hopens, rfl, rfl, ?_, key_ofColumns_eq_nil⟩
  rintro before c after rfl hc hafter
  exact key_ofColumns_append before hc hafter

/-- The start of a further declaration between two columns is passed over. -/
theorem extraction_recovers_half_written :
    let t : Text :=
      "\nTABLE_NAME (\"T\");table_attr(\"A\" )\t.PrimaryKey ; table_attr ( table_attr(\"B\");"
    WrittenSchema "T" [⟨"A", true⟩, ⟨"B", false⟩] t ∧ opensWithTable t = true ∧
      Schema.ofText t = ⟨"T", [⟨"A", true⟩, ⟨"B", false⟩], "A"⟩ := by
  intro t
  have hT : WrittenTable "T" "TABLE_NAME (\"T\");" :=
    .mk (@QuotedName.mk "table_name" "T" "TABLE_NAME" " " [] [] []
      (by decide) (by decide) (by decide) (by decide) (by decide) (by decide))
  have hA : WrittenColumn ⟨"A", true⟩ "table_attr(\"A\" )\t.PrimaryKey ;" :=
    .mk (@QuotedName.mk "table_attr" "A" "table_attr" [] [] " " "\t"
        (by decide) (by decide) (by decide) (by decide) (by decide) (by decide))
      (@WrittenMark.mark ".PrimaryKey" " " (by decide) (by decide))
  have hB : WrittenColumn ⟨"B", false⟩ "table_attr(\"B\");" :=
    .mk (@QuotedName.compact "table_attr" "B" "table_attr" (by decide) (by decide)) .none
  have ht : WrittenSchema "T" [⟨"A", true⟩, ⟨"B", false⟩] t :=
    @WrittenSchema.mk "T" _ "\n" _ [] _ (by decide) hT (by decide)
      (@WrittenColumns.cons _ _ _ " table_attr ( " _ hA (by decide)
        (@WrittenColumns.cons _ _ _ [] _ hB (by decide) .nil))
  obtain ⟨hopens, htable, hcolumns, hkey, _⟩ := extraction_recovers ht
  have hA' : (Schema.ofText t).key = "A" := hkey [] ⟨"A", true⟩ _ rfl rfl (by decide)
  refine ⟨ht, hopens, ?_⟩
  rw [← htable, ← hcolumns, ← hA']

end Declaration
end TablePackage
