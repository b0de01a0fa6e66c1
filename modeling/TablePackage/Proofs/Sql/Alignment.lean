import TablePackage.Proofs.Names
import TablePackage.Proofs.Sql.Statement

/-!
# Parameters and statements in step

The statements of a package use the parameters of their procedures, each in its place: what is read
back from the body of a package is the definitions that the table and its columns call for.

* `tokens_parameter`, `tokens_equation`: the pieces that all procedures are made of;
* `package?_definitions`: what is read of the body of a package;
* `statements_use_parameters`: each value that is inserted, set or compared is a parameter.
-/

namespace TablePackage.Sql

open Ascii Package Routine

variable {T c k mark v : Text} {n : Naming} {s : Schema} {ts : List Text}

/-! ## Pieces of a package -/

/-- A parameter is read as its name, and the column whose type it has. -/
theorem tokens_parameter (hT : IsName T) (hc : IsName c) (mark : Text) :
    tokens (parameter mark T c) =
      tokens (mark ++ c) ++ (tokens "IN" ++ T :: (tokens "." ++ c :: tokens "%TYPE")) := by
  have hsplit : parameter mark T c =
      Procedure.statementIndent ++ ((mark ++ c) ++ (" IN " ++ (T ++ ("." ++ (c ++ "%TYPE"))))) := by
    rw [parameter]
    simp only [List.append_assoc]
  have hstops : Stops "%TYPE" := by decide
  rw [hsplit, tokens_blanks (by decide), tokens_append_of_stops (stops_phrase (by decide) _),
    tokens_phrase (u := " IN ") "IN" (by decide), tokens_name hT (stops_phrase (by decide) _),
    tokens_phrase (u := ".") "." (by decide), tokens_name hc hstops]

/-- A column is compared with its parameter, or set to it. -/
theorem tokens_equation (hc : IsName c) (mark : Text) :
    tokens (c ++ " = " ++ mark ++ c) = c :: (tokens "=" ++ tokens (mark ++ c)) := by
  have hsplit : c ++ " = " ++ mark ++ c = c ++ (" = " ++ (mark ++ c)) := by
    simp only [List.append_assoc]
  rw [hsplit, tokens_name hc (stops_phrase (by decide) _), tokens_phrase "=" (by decide)]

/-- Names with commas between them. -/
theorem tokens_commaList (hts : ∀ t ∈ ts, IsName t) :
    tokens (commaList ts) = (Listing.of ts).words fun w => [w] := by
  rw [commaList, tokens_join (fun _ => stops_cons (by decide)) (by decide), Listing.words]
  exact congrArg _ (List.map_congr_left fun t ht => tokens_word (hts t ht))

/-! ## Definitions of a table -/

/-- The parameter for the column `c`. -/
def argument (mark T c : Text) : Argument := ⟨mark ++ c, T, c⟩

/-- The column `c` with its parameter. -/
def equation (mark c : Text) : Equation := ⟨c, mark ++ c⟩

/-- The names of the columns that are no keys. -/
def valueNames (s : Schema) : List Text := s.valueColumns.map (·.name)

/-- The statement that makes the changes last. -/
def commit : Statement := .other (tokens "COMMIT")

/-- The statement that returns the rows of a cursor. -/
def returning (cursor : Text) : Statement :=
  .other (tokens "DBMS_SQL.RETURN_RESULT(" ++ cursor :: tokens ")")

def createDefinition (n : Naming) (s : Schema) : Definition where
  name := "create_" ++ s.table
  arguments := .of ((valueNames s).map (argument n.create s.table))
  statements :=
    [.insert s.table (.of (valueNames s)) (.of ((valueNames s).map (n.create ++ ·))), commit]

def updateDefinition (n : Naming) (s : Schema) : Definition where
  name := "update_" ++ s.table
  arguments := .of ((s.key :: valueNames s).map (argument n.update s.table))
  statements :=
    [.update s.table (.of ((valueNames s).map (equation n.update))) (equation n.update s.key),
      commit]

def deleteDefinition (n : Naming) (s : Schema) : Definition where
  name := "delete_" ++ s.table
  arguments := .of [argument n.delete s.table s.key]
  statements := [.delete s.table (equation n.delete s.key), commit]

def getByIdDefinition (n : Naming) (s : Schema) : Definition where
  name := "gid_" ++ s.table ++ "_by_id"
  arguments := .of [argument n.getById s.table s.key]
  statements := [.query "c_gid" s.table (some (equation n.getById s.key)), returning "c_gid"]

def getAllDefinition (s : Schema) : Definition where
  name := "get_all_" ++ s.table
  arguments := .of []
  statements := [.query "c_g_all" s.table none, returning "c_g_all"]

/-! ## Procedures -/

/-- A procedure with parameters for some columns is read as it is written, if its statements are. -/
theorem writes_of_columns {p : Procedure} {cs : List Text} (locals : List (List Text))
    {statements : List Statement} (hname : IsName p.name) (hT : IsName T) (hmark : Letters mark)
    (hcs : ∀ c ∈ cs, IsName c) (hparameters : p.parameters = cs.map (parameter mark T))
    (htakes : p.takesArguments = false → cs = [])
    (hlocals : p.locals.flatMap tokens = locals.flatMap (· ++ tokens ";"))
    (hlocals' : ∀ s ∈ locals, IsSentence "BEGIN" s)
    (hstatements : p.statements.flatMap tokens = statements.flatMap (·.words ++ tokens ";"))
    (hstatements' : ∀ st ∈ statements, st.IsNamed) :
    Writes p ⟨p.name, .of (cs.map (argument mark T)), statements⟩ := by
  have hinside : tokens (inside p) =
      (Listing.of (cs.map (argument mark T))).words Argument.words := by
    rw [tokens_inside, hparameters, Listing.words, Listing.of, List.map_map, List.map_map]
    refine congrArg _ (List.map_congr_left fun c hc => ?_)
    rw [Function.comp_apply, tokens_parameter hT (hcs c hc),
      tokens_word (hmark.append_name (hcs c hc))]
    rfl
  refine writes_of_statements hname hinside ⟨rfl, ?_⟩ (fun h => ?_) hlocals hlocals' hstatements
    hstatements'
  · exact List.forall_mem_map.2 fun c hc => ⟨hmark.append_name (hcs c hc), hT, hcs c hc⟩
  · rw [htakes h]
    rfl

/-! ## Statements -/

theorem condition_eq (mark k : Text) :
    "WHERE " ++ k ++ " = " ++ mark ++ k ++ ";" = condition mark k := by
  simp only [List.append_assoc]
  rfl

/-- The condition on the lookup column, up to the semicolon. -/
theorem tokens_condition (hmark : Letters mark) (hk : IsName k) :
    tokens (condition mark k) = (equation mark k).condition ++ tokens ";" := by
  have hsplit : condition mark k = "WHERE " ++ ((k ++ " = " ++ mark ++ k) ++ (";" : Text)) := by
    simp only [List.append_assoc]
    rfl
  have hstops : Stops ";" := by decide
  rw [hsplit, tokens_phrase "WHERE" (by decide), tokens_append_of_stops hstops,
    tokens_equation hk, tokens_word (hmark.append_name hk)]
  rfl

/-- A statement inserts into the columns that it lists. -/
theorem tokens_columns (hT : IsName T) {columns : List Text} (hcolumns : ∀ w ∈ columns, IsName w) :
    tokens ("INSERT INTO " ++ T ++ " (" ++ commaList columns ++ ")") =
      tokens "INSERT INTO" ++ T :: (tokens "(" ++
        (((Listing.of columns).words fun w => [w]) ++ tokens ")")) := by
  have hsplit : "INSERT INTO " ++ T ++ " (" ++ commaList columns ++ ")" =
      "INSERT INTO " ++ (T ++ (" (" ++ (commaList columns ++ (")" : Text)))) := by
    simp only [List.append_assoc]
  have hstops : Stops ")" := by decide
  rw [hsplit, tokens_phrase "INSERT INTO" (by decide), tokens_name hT (stops_phrase (by decide) _),
    tokens_phrase "(" (by decide), tokens_append_of_stops hstops, tokens_commaList hcolumns]

theorem tokens_insert (hT : IsName T) {columns values : List Text}
    (hcolumns : ∀ w ∈ columns, IsName w) (hvalues : ∀ w ∈ values, IsName w) :
    tokens ("INSERT INTO " ++ T ++ " (" ++ commaList columns ++ ")") ++
        tokens ("VALUES (" ++ commaList values ++ ");") =
      (Statement.insert T (.of columns) (.of values)).words ++ tokens ";" := by
  have hvalue : "VALUES (" ++ commaList values ++ ");" =
      "VALUES (" ++ (commaList values ++ (");" : Text)) := List.append_assoc ..
  have hstops : Stops ");" := by decide
  have hopen : tokens "VALUES (" = tokens "VALUES" ++ tokens "(" := rfl
  have hclose : tokens ");" = tokens ")" ++ tokens ";" := rfl
  rw [tokens_columns hT hcolumns, hvalue, tokens_append_of_closed (by decide), hopen,
    tokens_append_of_stops hstops, tokens_commaList hvalues, hclose]
  simp only [Statement.words, List.append_assoc, List.cons_append]

/-- Assignments with commas between them. -/
theorem tokens_assignments {cs : List Text} (hcs : ∀ c ∈ cs, IsName c) (hmark : Letters mark) :
    tokens (Text.join (",\n" ++ Procedure.statementIndent ++ Procedure.indent)
      (cs.map fun c => c ++ " = " ++ mark ++ c)) =
      (Listing.of (cs.map (equation mark))).words Equation.words := by
  rw [tokens_join (fun _ => stops_cons (by decide)) (by decide), Listing.words, Listing.of,
    List.map_map, List.map_map]
  refine congrArg _ (List.map_congr_left fun c hc => ?_)
  rw [Function.comp_apply, tokens_equation (hcs c hc), tokens_word (hmark.append_name (hcs c hc))]
  rfl

theorem tokens_update (hT : IsName T) {cs : List Text} (hcs : ∀ c ∈ cs, IsName c)
    (hmark : Letters mark) (hk : IsName k) :
    tokens ("UPDATE " ++ T ++ " SET") ++ (tokens (Procedure.indent ++
        Text.join (",\n" ++ Procedure.statementIndent ++ Procedure.indent)
          (cs.map fun c => c ++ " = " ++ mark ++ c)) ++ tokens (condition mark k)) =
      (Statement.update T (.of (cs.map (equation mark))) (equation mark k)).words ++
        tokens ";" := by
  have hupdate : "UPDATE " ++ T ++ " SET" = "UPDATE " ++ (T ++ (" SET" : Text)) :=
    List.append_assoc ..
  have hset : Stops " SET" ∧ tokens " SET" = tokens "SET" := by decide
  rw [hupdate, tokens_phrase "UPDATE" (by decide), tokens_name hT hset.1, hset.2,
    tokens_blanks (by decide), tokens_assignments hcs hmark, tokens_condition hmark hk]
  simp only [Statement.words, List.append_assoc, List.cons_append]

/-- A condition may follow the name of a table. -/
theorem tokens_name_condition (hT : IsName T) (hmark : Letters mark) (hk : IsName k) :
    tokens (T ++ (" " ++ condition mark k)) = T :: ((equation mark k).condition ++ tokens ";") := by
  rw [tokens_name hT (stops_phrase (by decide) _), tokens_blanks (by decide),
    tokens_condition hmark hk]

theorem tokens_delete (hT : IsName T) (hmark : Letters mark) (hk : IsName k) :
    tokens ("DELETE FROM " ++ T ++ " WHERE " ++ k ++ " = " ++ mark ++ k ++ ";") =
      (Statement.delete T (equation mark k)).words ++ tokens ";" := by
  have hsplit : "DELETE FROM " ++ T ++ " WHERE " ++ k ++ " = " ++ mark ++ k ++ ";" =
      "DELETE FROM " ++ (T ++ (" " ++ condition mark k)) := by
    simp only [List.append_assoc]
    rfl
  rw [hsplit, tokens_phrase "DELETE FROM" (by decide), tokens_name_condition hT hmark hk,
    Statement.words, List.append_assoc, List.cons_append]

/-- A query of the rows with a key, by the cursor that `opening` opens. -/
theorem tokens_query {opening cursor : Text} (hopening : Closed opening ∧
      tokens opening = tokens "OPEN" ++ cursor :: tokens "FOR SELECT * FROM")
    (hT : IsName T) (hmark : Letters mark) (hk : IsName k) :
    tokens (opening ++ T ++ " WHERE " ++ k ++ " = " ++ mark ++ k ++ ";") =
      (Statement.query cursor T (some (equation mark k))).words ++ tokens ";" := by
  have hsplit : opening ++ T ++ " WHERE " ++ k ++ " = " ++ mark ++ k ++ ";" =
      opening ++ (T ++ (" " ++ condition mark k)) := by
    simp only [List.append_assoc]
    rfl
  rw [hsplit, tokens_append_of_closed hopening.1, hopening.2, tokens_name_condition hT hmark hk]
  simp only [Statement.words, List.append_assoc, List.cons_append, Option.map_some,
    Option.getD_some]

/-- A query of all rows. -/
theorem tokens_query_all {opening cursor : Text} (hopening : Closed opening ∧
      tokens opening = tokens "OPEN" ++ cursor :: tokens "FOR SELECT * FROM") (hT : IsName T) :
    tokens (opening ++ T ++ ";") = (Statement.query cursor T none).words ++ tokens ";" := by
  have hstops : Stops ";" := by decide
  rw [List.append_assoc, tokens_append_of_closed hopening.1, hopening.2, tokens_name hT hstops]
  simp only [Statement.words, List.append_assoc, List.cons_append, Option.map_none,
    Option.getD_none, List.nil_append]

/-! ## The procedures of a table -/

/-- The parameters and statements of a procedure by the names of the columns. -/
theorem parameters_createProcedure (n : Naming) (s : Schema) :
    (createProcedure n s).parameters = (valueNames s).map (parameter n.create s.table) := by
  rw [valueNames, List.map_map]
  rfl

theorem parameters_updateProcedure (n : Naming) (s : Schema) :
    (updateProcedure n s).parameters =
      (s.key :: valueNames s).map (parameter n.update s.table) := by
  rw [List.map_cons, valueNames, List.map_map]
  rfl

theorem statements_createProcedure (n : Naming) (s : Schema) :
    (createProcedure n s).statements =
      ["INSERT INTO " ++ s.table ++ " (" ++ commaList (valueNames s) ++ ")",
        "VALUES (" ++ commaList ((valueNames s).map (n.create ++ ·)) ++ ");", "COMMIT;"] := by
  rw [valueNames, List.map_map]
  rfl

theorem statements_updateProcedure (n : Naming) (s : Schema) :
    (updateProcedure n s).statements =
      ["UPDATE " ++ s.table ++ " SET",
        Procedure.indent ++ Text.join (",\n" ++ Procedure.statementIndent ++ Procedure.indent)
          ((valueNames s).map fun c => c ++ " = " ++ n.update ++ c),
        condition n.update s.key, "COMMIT;"] := by
  rw [← condition_eq, valueNames, List.map_map]
  rfl

/-- The procedures of a table write these definitions. -/
theorem writes_createProcedure (h : Named n s) :
    Writes (createProcedure n s) (createDefinition n s) := by
  have hvalues : ∀ w ∈ valueNames s, IsName w := List.forall_mem_map.2 h.valueColumns
  have hmarked : ∀ w ∈ (valueNames s).map (n.create ++ ·), IsName w :=
    List.forall_mem_map.2 fun w hw => h.marks.1.append_name (hvalues w hw)
  have hname : IsName (createProcedure n s).name :=
    IsName.append_letters (u := "create_") (by decide) h.table.letters
  refine writes_of_columns [] hname h.table h.marks.1 hvalues (parameters_createProcedure n s)
    (fun h => nomatch h) rfl (List.forall_mem_nil _) ?_ ?_
  · rw [statements_createProcedure, List.flatMap_cons, List.flatMap_cons, ← List.append_assoc,
      tokens_insert h.table hvalues hmarked]
    rfl
  · refine List.forall_mem_cons.2 ⟨⟨h.table, ⟨rfl, hvalues⟩, rfl, hmarked⟩, ?_⟩
    exact List.forall_mem_singleton.2 ⟨rfl, by decide, by decide, by decide⟩

theorem writes_updateProcedure (h : Named n s) (hk : IsName s.key) :
    Writes (updateProcedure n s) (updateDefinition n s) := by
  obtain ⟨-, hmark, -⟩ := h.marks
  have hvalues : ∀ w ∈ valueNames s, IsName w := List.forall_mem_map.2 h.valueColumns
  have hname : IsName (updateProcedure n s).name :=
    IsName.append_letters (u := "update_") (by decide) h.table.letters
  have hcolumns : ∀ w ∈ s.key :: valueNames s, IsName w := List.forall_mem_cons.2 ⟨hk, hvalues⟩
  refine writes_of_columns [] hname h.table hmark hcolumns (parameters_updateProcedure n s)
    (fun h => nomatch h) rfl (List.forall_mem_nil _) ?_ ?_
  · have hupdate := tokens_update h.table hvalues hmark hk
    rw [statements_updateProcedure, List.flatMap_cons, List.flatMap_cons, List.flatMap_cons,
      ← List.append_assoc (tokens (Procedure.indent ++ _)), ← List.append_assoc, hupdate]
    rfl
  · refine List.forall_mem_cons.2 ⟨⟨h.table, ⟨rfl, ?_⟩, hk, hmark.append_name hk⟩, ?_⟩
    · exact List.forall_mem_map.2 fun c hc => ⟨hvalues c hc, hmark.append_name (hvalues c hc)⟩
    · exact List.forall_mem_singleton.2 ⟨rfl, by decide, by decide, by decide⟩

theorem writes_deleteProcedure (h : Named n s) (hk : IsName s.key) :
    Writes (deleteProcedure n s) (deleteDefinition n s) := by
  obtain ⟨-, -, hmark, -⟩ := h.marks
  have hname : IsName (deleteProcedure n s).name :=
    IsName.append_letters (u := "delete_") (by decide) h.table.letters
  have hcolumns : ∀ w ∈ [s.key], IsName w := List.forall_mem_singleton.2 hk
  refine writes_of_columns [] hname h.table hmark hcolumns rfl (fun h => nomatch h) rfl
    (List.forall_mem_nil _) ?_ ?_
  · have hdelete := tokens_delete h.table hmark hk
    have hstatements : (deleteProcedure n s).statements =
        ["DELETE FROM " ++ s.table ++ " WHERE " ++ s.key ++ " = " ++ n.delete ++ s.key ++ ";",
          "COMMIT;"] := rfl
    rw [hstatements, List.flatMap_cons, hdelete]
    rfl
  · refine List.forall_mem_cons.2 ⟨⟨h.table, hk, hmark.append_name hk⟩, ?_⟩
    exact List.forall_mem_singleton.2 ⟨rfl, by decide, by decide, by decide⟩

theorem writes_getByIdProcedure (h : Named n s) (hk : IsName s.key) :
    Writes (getByIdProcedure n s) (getByIdDefinition n s) := by
  obtain ⟨-, -, -, hmark, -⟩ := h.marks
  have hname : IsName (getByIdProcedure n s).name :=
    (IsName.append_letters (u := "gid_") (by decide) h.table.letters).append_letters (by decide)
  have hcolumns : ∀ w ∈ [s.key], IsName w := List.forall_mem_singleton.2 hk
  have hlocal : IsSentence "BEGIN" (tokens "c_gid SYS_REFCURSOR") :=
    ⟨by decide, by decide, by decide⟩
  refine writes_of_columns [tokens "c_gid SYS_REFCURSOR"] hname h.table hmark hcolumns rfl
    (fun h => nomatch h) rfl (List.forall_mem_singleton.2 hlocal) ?_ ?_
  · have hquery : tokens ("OPEN c_gid FOR SELECT * FROM " ++ s.table ++ " WHERE " ++ s.key ++
        " = " ++ n.getById ++ s.key ++ ";") =
          (Statement.query "c_gid" s.table (some (equation n.getById s.key))).words ++ tokens ";" :=
      tokens_query (by decide) h.table hmark hk
    have hstatements : (getByIdProcedure n s).statements =
        ["OPEN c_gid FOR SELECT * FROM " ++ s.table ++ " WHERE " ++ s.key ++ " = " ++ n.getById ++
          s.key ++ ";", "DBMS_SQL.RETURN_RESULT(c_gid);"] := rfl
    rw [hstatements, List.flatMap_cons, hquery]
    rfl
  · refine List.forall_mem_cons.2 ⟨⟨by decide, h.table, fun e he => ?_⟩, ?_⟩
    · obtain rfl := Option.some.inj he
      exact ⟨hk, hmark.append_name hk⟩
    · exact List.forall_mem_singleton.2 ⟨rfl, by decide, by decide, by decide⟩

theorem writes_getAllProcedure (h : Named n s) :
    Writes (getAllProcedure s) (getAllDefinition s) := by
  have hname : IsName (getAllProcedure s).name :=
    IsName.append_letters (u := "get_all_") (by decide) h.table.letters
  have hlocal : IsSentence "BEGIN" (tokens "c_g_all SYS_REFCURSOR") :=
    ⟨by decide, by decide, by decide⟩
  refine writes_of_columns [tokens "c_g_all SYS_REFCURSOR"] hname h.table (List.forall_mem_nil _)
    (List.forall_mem_nil _) rfl (fun _ => rfl) rfl (List.forall_mem_singleton.2 hlocal) ?_ ?_
  · have hquery : tokens ("OPEN c_g_all FOR SELECT * FROM " ++ s.table ++ ";") =
        (Statement.query "c_g_all" s.table none).words ++ tokens ";" :=
      tokens_query_all (by decide) h.table
    have hstatements : (getAllProcedure s).statements =
        ["OPEN c_g_all FOR SELECT * FROM " ++ s.table ++ ";",
          "DBMS_SQL.RETURN_RESULT(c_g_all);"] := rfl
    rw [hstatements, List.flatMap_cons, hquery]
    rfl
  · refine List.forall_mem_cons.2 ⟨⟨by decide, h.table, fun _ he => nomatch he⟩, ?_⟩
    exact List.forall_mem_singleton.2 ⟨rfl, by decide, by decide, by decide⟩

/-- What is read of the body of a package is the definitions that the table calls for. -/
theorem package?_definitions (h : Named n s) (hk : IsName s.key) :
    package? (ofSchema n s).definitions =
      some (n.packageName s.table, [createDefinition n s, updateDefinition n s,
        deleteDefinition n s, getByIdDefinition n s, getAllDefinition s]) := by
  obtain ⟨-, -, -, -, hsuffix⟩ := h.marks
  have hwrites : List.Forall₂ Writes (proceduresOf n s) [createDefinition n s, updateDefinition n s,
      deleteDefinition n s, getByIdDefinition n s, getAllDefinition s] :=
    .cons (writes_createProcedure h) <| .cons (writes_updateProcedure h hk) <|
      .cons (writes_deleteProcedure h hk) <| .cons (writes_getByIdProcedure h hk) <|
        .cons (writes_getAllProcedure h) .nil
  exact package?_append (h.table.append_letters hsuffix) hwrites

/-! ## Parameters in step -/

/-- The values of a new row are the parameters in their order, each with the type of the column in
    its place. -/
def InsertsInStep (mark : Text) (s : Schema) (d : Definition) : Prop :=
  ∃ columns values, d.statements = [.insert s.table columns values, commit] ∧
    columns.entries = valueNames s ∧
    values.entries = d.arguments.entries.map (·.name) ∧
    d.arguments.entries = columns.entries.map (fun c => ⟨mark ++ c, s.table, c⟩) ∧
    d.arguments.Separated ∧ columns.Separated ∧ values.Separated

/-- The first parameter is compared with the key, and the others are assigned in their order, each
    to the column whose type it has. -/
def UpdatesInStep (s : Schema) (d : Definition) : Prop :=
  ∃ first others assignments, d.arguments.entries = first :: others ∧
    d.statements = [.update s.table assignments ⟨s.key, first.name⟩, commit] ∧
    first.table = s.table ∧ first.column = s.key ∧
    others = assignments.entries.map (fun e => ⟨e.value, s.table, e.column⟩) ∧
    assignments.entries.map (·.column) = valueNames s ∧
    d.arguments.Separated ∧ assignments.Separated

/-- There is one parameter, with the type of the key, and it is compared with the key where
    `change` makes a statement of the condition. -/
def LooksUpInStep (s : Schema) (change : Equation → List Statement) (d : Definition) : Prop :=
  ∃ a : Argument, d.arguments.entries = [a] ∧ d.statements = change ⟨s.key, a.name⟩ ∧
    a.table = s.table ∧ a.column = s.key ∧ d.arguments.Separated

/-- What is read of the definitions in a package uses the parameters in step. -/
def InStep (n : Naming) (s : Schema) (p : Package) : Prop :=
  ∃ create update delete getById getAll,
    package? p.definitions = some (p.name, [create, update, delete, getById, getAll]) ∧
    create.name = "create_" ++ s.table ∧ InsertsInStep n.create s create ∧
    update.name = "update_" ++ s.table ∧ UpdatesInStep s update ∧
    delete.name = "delete_" ++ s.table ∧
    LooksUpInStep s (fun e => [.delete s.table e, commit]) delete ∧
    getById.name = "gid_" ++ s.table ++ "_by_id" ∧
    LooksUpInStep s (fun e => [.query "c_gid" s.table (some e), returning "c_gid"]) getById ∧
    getAll.name = "get_all_" ++ s.table ∧ getAll.arguments.entries = [] ∧
    getAll.statements = [.query "c_g_all" s.table none, returning "c_g_all"]

theorem insertsInStep_createDefinition (n : Naming) (s : Schema) :
    InsertsInStep n.create s (createDefinition n s) := by
  have hvalues : (valueNames s).map (n.create ++ ·) =
      ((valueNames s).map (argument n.create s.table)).map (·.name) := by
    rw [List.map_map]
    rfl
  exact ⟨_, _, rfl, rfl, hvalues, rfl, rfl, rfl, rfl⟩

theorem updatesInStep_updateDefinition (n : Naming) (s : Schema) :
    UpdatesInStep s (updateDefinition n s) := by
  have hothers : (valueNames s).map (argument n.update s.table) =
      ((valueNames s).map (equation n.update)).map fun e => ⟨e.value, s.table, e.column⟩ := by
    rw [List.map_map]
    rfl
  have hcolumns : ((valueNames s).map (equation n.update)).map (·.column) = valueNames s := by
    rw [List.map_map]
    exact List.map_id _
  exact ⟨_, _, _, rfl, rfl, rfl, rfl, hothers, hcolumns, rfl, rfl⟩

/-- The statements of a package use exactly the parameters of their procedures, in step. -/
theorem statements_use_parameters {S : Text} {g : Generated}
    (hbuild : Generated.build S n true = .ok g) (hletters : ∀ t ∈ n.fragments, Letters t) :
    InStep n g.schema g.package := by
  have hread := package?_definitions (named_of_build hbuild hletters) (isName_key_of_build hbuild)
  obtain ⟨-, -, rfl⟩ := Generated.build_eq_ok_iff.1 hbuild
  exact ⟨_, _, _, _, _, hread, rfl, insertsInStep_createDefinition n _, rfl,
    updatesInStep_updateDefinition n _, rfl, ⟨_, rfl, rfl, rfl, rfl, rfl⟩, rfl,
    ⟨_, rfl, rfl, rfl, rfl, rfl⟩, rfl, rfl, rfl⟩

/-- A table with the names of keywords; one of its columns is declared twice. -/
def clauseTable : Text :=
  "table_name(\"SET\");table_attr(\"WHERE\");table_attr(\"END\").primarykey;table_attr(\"WHERE\");"

/-- Its procedures insert and set two columns with the same name. -/
def clauseSchema : Schema := ⟨"SET", [⟨"WHERE", false⟩, ⟨"END", true⟩, ⟨"WHERE", false⟩], "END"⟩

theorem statements_use_clause_parameters :
    ∃ g, Generated.build clauseTable { create := "BEGIN" } true = .ok g ∧
      (∀ t ∈ Naming.fragments { create := "BEGIN" }, Letters t) ∧ g.schema = clauseSchema ∧
      InStep { create := "BEGIN" } clauseSchema g.package := by
  have hbuild : Generated.build clauseTable { create := "BEGIN" } true =
      .ok (.ofSchema clauseTable { create := "BEGIN" } clauseSchema) :=
    build_of_ofText (by decide +kernel) (by decide +kernel) (by decide) { create := "BEGIN" }
  have hletters : ∀ t ∈ Naming.fragments { create := "BEGIN" }, Letters t := by decide
  exact ⟨_, hbuild, hletters, rfl, statements_use_parameters hbuild hletters⟩

end TablePackage.Sql
