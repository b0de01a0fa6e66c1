import TablePackage.Proofs.Config
import TablePackage.Proofs.Routine.Members

/-!
# Statements of procedures

The statements of the five procedures of a package are made of fixed phrases and the names of the
table and its columns. Their definitions are read over as long as no name is `IS` or `AS`
(`Unambiguous`): these words would make a header of a parameter called `PROCEDURE`, for example.

* `Quiet.of_statements`: a procedure is quiet if its statements are inert;
* `quiet_proceduresOf`: the procedures of a table are quiet.
-/

namespace TablePackage.Routine

open Ascii Package

variable {b mark r t w x : Text} {n : Naming} {s : Schema} {p : Procedure} {ts : List Text}

/-- The names of a table, its columns and its parameters are words; only the lookup column may be
    missing. -/
structure Named (n : Naming) (s : Schema) : Prop where
  table : IsName s.table
  columns : ∀ c ∈ s.columns, IsName c.name
  key : Letters s.key
  fragments : ∀ t ∈ n.fragments, Letters t
  update : n.update ++ s.key ≠ []
  delete : n.delete ++ s.key ≠ []
  getById : n.getById ++ s.key ≠ []

/-- No name in a statement is `IS` or `AS`. -/
structure Unambiguous (s : Schema) : Prop where
  table : ¬IsOrAs s.table
  columns : ∀ c ∈ s.columns, ¬IsOrAs c.name
  key : ¬IsOrAs s.key

/-! ## Procedures -/

/-- Statements are inert if each of them is. -/
theorem inert_indented {follow : Text → Option Text} (hts : ∀ t ∈ ts, ∀ r, Inert follow t r) :
    Inert follow (indented ts) r := by
  induction ts with
  | nil => exact inert_nil r
  | cons t ts ih =>
    rw [indented, List.map_cons, List.flatMap_cons, List.append_assoc, List.append_assoc]
    exact .phrase (by decide) ((hts t List.mem_cons_self _).append
      (.phrase (by decide) (ih fun u hu => hts u (List.mem_cons_of_mem t hu))))

/-- A local declaration is a phrase that starts with a name other than `IS` and `AS`. -/
structure IsLocal (t : Text) : Prop where
  fixed : isFixed t = true
  name : ∃ w r, t = w ++ ' ' :: r ∧ IsName w ∧ ¬IsOrAs w

/-- Behind the heading of a definition there is `IS`, and a word other than `IS` and `AS`. -/
theorem plain_middle (hlocals : ∀ t ∈ p.locals, IsLocal t) (r : Text) :
    Plain isOrAs? (middle p ++ r) := by
  have hword : ∀ {b w y : Text}, IsGap b → IsName w → ¬IsOrAs w → Stops y →
      Plain isOrAs? (" " ++ ("IS" ++ (b ++ (w ++ y)))) := fun hb hw hnot hy =>
    .word (by decide) (by decide) hb (mild_append hw (isOrAs?_eq_none hw.letters hnot hy))
  unfold middle
  cases hts : p.locals with
  | nil =>
    have hbegin : ∀ y, Plain isOrAs? (" " ++ ("IS" ++ ("\n  " ++ ("BEGIN" ++ '\n' :: y)))) :=
      fun y => hword (by decide) (by decide) (by decide) (stops_cons (by decide))
    exact hbegin _
  | cons t ts =>
    obtain ⟨w, z, rfl, hw, hnot⟩ := (hlocals t (hts ▸ List.mem_cons_self)).name
    have hlocal : ∀ y, Plain isOrAs? (" " ++ ("IS" ++ ("\n    " ++ (w ++ ' ' :: y)))) :=
      fun y => hword (by decide) hw hnot (stops_cons (by decide))
    simp only [indented, List.map_cons, List.flatMap_cons, List.append_assoc, List.cons_append]
    exact hlocal _

/-- A procedure is quiet if its statements are inert. -/
theorem Quiet.of_statements (hlocals : ∀ t ∈ p.locals, IsLocal t)
    (hstatements : ∀ r, Inert isOrAs? (indented p.statements) r) : Quiet p where
  inert r := .phrase (by decide) <|
    .append (inert_indented fun t ht _ => inert_of_isFixed (hlocals t ht).fixed) <|
      .phrase (by decide) <| .phrase (by decide) <|
        (hstatements _).append (inert_of_isFixed (by decide))
  plain := plain_middle hlocals

/-! ## Statements -/

/-- Names with commas between them are inert. -/
theorem inert_commaList (hts : ∀ t ∈ ts, Letters t) (hr : Plain isOrAs? r) :
    Inert isOrAs? (commaList ts) r :=
  inert_join (by decide) (fun _ => .symbol (c := ',') (by decide))
    (fun t ht _ hx => inert_of_letters (hts t ht) hx) hr

theorem plain_equals (x : Text) : Plain isOrAs? (" = " ++ x) :=
  .gap (b := " ") (c := '=') (by decide) (by decide)

/-- The comparison of a column with its parameter is inert. -/
theorem inert_comparison (hw : Letters w) (hmark : Letters mark) (hr : Plain isOrAs? r) :
    Inert isOrAs? (w ++ (" = " ++ (mark ++ w))) r :=
  .name hw (plain_equals _) (.phrase (by decide) (inert_of_letters (hmark.append hw) hr))

/-- The condition on the lookup column `key`, up to the end of the statement. -/
def condition (mark key : Text) : Text := "WHERE " ++ (key ++ (" = " ++ (mark ++ (key ++ [';']))))

/-- A condition is inert. -/
theorem inert_condition (hw : Letters w) (hmark : Letters mark) :
    Inert isOrAs? (condition mark w) r := by
  have hsplit : condition mark w = "WHERE " ++ ((w ++ (" = " ++ (mark ++ w))) ++ [';']) := by
    unfold condition
    simp only [List.append_assoc]
  rw [hsplit]
  exact .phrase (by decide) (.append (inert_comparison hw hmark (.symbol (c := ';') (by decide)))
    (inert_of_isFixed (by decide)))

/-- A condition may follow a name, if the lookup column is not `IS` or `AS`. -/
theorem plain_condition (hb : IsGap b) (hw : Letters w) (hnot : ¬IsOrAs w) :
    Plain isOrAs? (b ++ (condition mark w ++ x)) := by
  unfold condition
  simp only [List.append_assoc]
  by_cases hne : w = []
  · -- Without a lookup column, the equals sign follows.
    have hmild : ∀ y, Mild isOrAs? ('=' :: y) := fun y =>
      ⟨Text.forall_head?_cons (by decide) y, rfl⟩
    rw [hne]
    exact @Plain.word _ b "WHERE" "  " _ hb (by decide) (by decide) (hmild _)
  · have hmild : ∀ y, Mild isOrAs? (w ++ ' ' :: y) := fun y =>
      mild_append ⟨hne, hw⟩ (isOrAs?_eq_none hw hnot (stops_cons (by decide)))
    exact @Plain.word _ b "WHERE" " " _ hb (by decide) (by decide) (hmild _)

/-! ## The procedures of a table -/

theorem Named.marks (h : Named n s) : Letters n.create ∧ Letters n.update ∧ Letters n.delete ∧
    Letters n.getById ∧ Letters n.packageSuffix := by
  simpa [Naming.fragments] using h.fragments

theorem Named.valueColumns (h : Named n s) : ∀ c ∈ s.valueColumns, IsName c.name := fun c hc =>
  h.columns c (List.mem_filter.1 hc).1

/-- The declaration of a cursor. -/
theorem isLocal_cursor (hw : IsName w) (hnot : ¬IsOrAs w)
    (hfixed : isFixed (w ++ " SYS_REFCURSOR;") = true) : IsLocal (w ++ " SYS_REFCURSOR;") :=
  ⟨hfixed, w, "SYS_REFCURSOR;", rfl, hw, hnot⟩

theorem quiet_createProcedure (h : Named n s) : Quiet (createProcedure n s) := by
  have hnames : ∀ t ∈ s.valueColumns.map (·.name), Letters t :=
    List.forall_mem_map.2 fun c hc => (h.valueColumns c hc).letters
  have hmarked : ∀ t ∈ s.valueColumns.map (n.create ++ ·.name), Letters t :=
    List.forall_mem_map.2 fun c hc => h.marks.1.append (h.valueColumns c hc).letters
  refine .of_statements (List.forall_mem_nil _) fun _ => inert_indented ?_
  refine List.forall_mem_cons.2 ⟨fun r => ?_, List.forall_mem_cons.2 ⟨fun r => ?_, ?_⟩⟩
  · simp only [List.append_assoc]
    refine .phrase (by decide) (.name h.table.letters ?_ (.phrase (by decide) ?_))
    · exact .gap (b := " ") (c := '(') (by decide) (by decide)
    · exact .append (inert_commaList hnames (.symbol (c := ')') (by decide)))
        (inert_of_isFixed (by decide))
  · simp only [List.append_assoc]
    exact .phrase (by decide) (.append
      (inert_commaList hmarked (.symbol (c := ')') (by decide)))
      (inert_of_isFixed (by decide)))
  · exact List.forall_mem_singleton.2 fun r => inert_of_isFixed (by decide)

/-- A phrase with the table and a condition on the lookup column is inert. -/
theorem inert_rows (h : Named n s) (hs : Unambiguous s) (hmark : Letters mark)
    (ht : isFixed t = true) :
    Inert isOrAs? (t ++ s.table ++ " WHERE " ++ s.key ++ " = " ++ mark ++ s.key ++ ";") r := by
  have hsplit : t ++ s.table ++ " WHERE " ++ s.key ++ " = " ++ mark ++ s.key ++ ";" =
      t ++ (s.table ++ (" " ++ condition mark s.key)) := by
    have hwhere : (" WHERE " : Text) = " " ++ ("WHERE " : Text) := by decide
    rw [hwhere]
    unfold condition
    simp only [List.append_assoc]
    rfl
  rw [hsplit]
  refine .phrase ht (.name h.table.letters ?_ (.phrase (by decide) (inert_condition h.key hmark)))
  rw [List.append_assoc]
  exact plain_condition (by decide) h.key hs.key

theorem quiet_deleteProcedure (h : Named n s) (hs : Unambiguous s) :
    Quiet (deleteProcedure n s) := by
  obtain ⟨-, -, hdelete, -⟩ := h.marks
  refine .of_statements (List.forall_mem_nil _) fun _ => inert_indented ?_
  refine List.forall_mem_cons.2 ⟨fun r => ?_, List.forall_mem_singleton.2 fun r => ?_⟩
  · exact inert_rows h hs hdelete (by decide)
  · exact inert_of_isFixed (by decide)

theorem quiet_getByIdProcedure (h : Named n s) (hs : Unambiguous s) :
    Quiet (getByIdProcedure n s) := by
  obtain ⟨-, -, -, hgetById, -⟩ := h.marks
  have hcursor : ∀ t ∈ (getByIdProcedure n s).locals, IsLocal t := List.forall_mem_singleton.2
    (isLocal_cursor (w := "c_gid") (by decide) (by decide) (by decide))
  refine .of_statements hcursor fun _ => inert_indented ?_
  refine List.forall_mem_cons.2 ⟨fun r => ?_, List.forall_mem_singleton.2 fun r => ?_⟩
  · exact inert_rows h hs hgetById (by decide)
  · exact inert_of_isFixed (by decide)

theorem quiet_getAllProcedure (h : Named n s) : Quiet (getAllProcedure s) := by
  have hcursor : ∀ t ∈ (getAllProcedure s).locals, IsLocal t := List.forall_mem_singleton.2
    (isLocal_cursor (w := "c_g_all") (by decide) (by decide) (by decide))
  refine .of_statements hcursor fun _ => inert_indented ?_
  refine List.forall_mem_cons.2 ⟨fun r => ?_, List.forall_mem_singleton.2 fun r => ?_⟩
  · rw [List.append_assoc]
    exact .phrase (by decide) (.name h.table.letters (.symbol (c := ';') (by decide))
      (inert_of_isFixed (by decide)))
  · exact inert_of_isFixed (by decide)

/-- The assignments of an update, one for each value column. -/
def assignments (n : Naming) (s : Schema) : Text :=
  Text.join (",\n" ++ Procedure.statementIndent ++ Procedure.indent)
    (s.valueColumns.map fun c => c.name ++ " = " ++ n.update ++ c.name)

/-- The end of a line and the indentation of the next statement. -/
def newLine : Text := "\n" ++ Procedure.statementIndent

theorem indented_updateProcedure (n : Naming) (s : Schema) :
    indented (updateProcedure n s).statements =
      Procedure.statementIndent ++ ("UPDATE " ++ (s.table ++ (" SET" ++
        (newLine ++ Procedure.indent ++ (assignments n s ++ (newLine ++
          (condition n.update s.key ++ (newLine ++ ("COMMIT;\n" : Text))))))))) := by
  unfold indented updateProcedure assignments condition newLine
  simp only [List.map_cons, List.map_nil, List.flatMap_cons, List.flatMap_nil, List.append_assoc]
  rfl

/-- The assignments are inert. -/
theorem inert_assignments (h : Named n s) (hr : Plain isOrAs? r) :
    Inert isOrAs? (assignments n s) r := by
  obtain ⟨-, hupdate, -⟩ := h.marks
  refine inert_join (by decide) (fun _ => .symbol (c := ',') (by decide)) ?_ hr
  refine List.forall_mem_map.2 fun c hc x hx => ?_
  rw [List.append_assoc, List.append_assoc]
  exact inert_comparison (h.valueColumns c hc).letters hupdate hx

/-- Behind the name of the table in an update comes the first assignment, or the condition. -/
theorem plain_set (h : Named n s) (hs : Unambiguous s) :
    Plain isOrAs? (" SET" ++ (newLine ++ Procedure.indent ++ (assignments n s ++
      (newLine ++ (condition n.update s.key ++ x))))) := by
  have hset : ∀ {b y : Text}, IsGap b → Mild isOrAs? y → Plain isOrAs? (" SET" ++ (b ++ y)) :=
    fun hb hy => @Plain.word _ " " "SET" _ _ (by decide) (by decide) hb hy
  unfold assignments
  cases hcolumns : s.valueColumns with
  | nil =>
    have hmild : ∀ y, Mild isOrAs? ("WHERE" ++ ' ' :: y) := fun y =>
      mild_append (by decide) (isOrAs?_eq_none (by decide) (by decide) (stops_cons (by decide)))
    rw [List.map_nil, Text.join, List.intercalate_nil, List.nil_append,
      ← List.append_assoc (newLine ++ _)]
    exact hset (by decide) (hmild _)
  | cons c cs =>
    have hc : c ∈ s.columns := (List.mem_filter.1 (hcolumns ▸ List.mem_cons_self)).1
    obtain ⟨z, hz⟩ := Text.exists_join_cons (",\n" ++ Procedure.statementIndent ++ Procedure.indent)
      (c.name ++ " = " ++ n.update ++ c.name)
      (cs.map fun c => c.name ++ " = " ++ n.update ++ c.name)
    rw [List.map_cons, hz]
    refine hset (by decide) ?_
    simp only [List.append_assoc]
    exact mild_append (h.columns c hc) (isOrAs?_eq_none (h.columns c hc).letters (hs.columns c hc)
      (plain_equals _).stops)

theorem quiet_updateProcedure (h : Named n s) (hs : Unambiguous s) :
    Quiet (updateProcedure n s) := by
  obtain ⟨-, hupdate, -⟩ := h.marks
  refine .of_statements (List.forall_mem_nil _) fun r => ?_
  rw [indented_updateProcedure]
  refine .phrase (by decide) (.phrase (by decide) (.name h.table.letters ?_ (.phrase (by decide)
    (.phrase (by decide) (.append (inert_assignments h ?_) (.phrase (by decide)
      (.append (inert_condition h.key hupdate) (inert_of_isFixed (by decide)))))))))
  · have hset := plain_set (x := newLine ++ ("COMMIT;\n" : Text) ++ r) h hs
    simpa only [List.append_assoc] using hset
  · have hcondition : Plain isOrAs? (newLine ++ (condition n.update s.key ++
        (newLine ++ ("COMMIT;\n" : Text) ++ r))) := plain_condition (by decide) h.key hs.key
    simpa only [List.append_assoc] using hcondition

/-- The procedures of a table are quiet. -/
theorem quiet_proceduresOf (h : Named n s) (hs : Unambiguous s) :
    ∀ p ∈ proceduresOf n s, Quiet p := by
  simp only [proceduresOf, List.forall_mem_cons]
  exact ⟨quiet_createProcedure h, quiet_updateProcedure h hs, quiet_deleteProcedure h hs,
    quiet_getByIdProcedure h hs, quiet_getAllProcedure h, List.forall_mem_nil _⟩

end TablePackage.Routine
