import TablePackage.Proofs.Sql.Alignment

/-!
# Keys in value lists

The lookup column is chosen by its name, but the columns of the value lists are chosen by their
flags. So the lookup column stays out of the lists as long as it is flagged wherever it is declared;
if it is declared again without a flag, it is inserted and set like any other column, and an update
has two parameters for it.

* `insertedColumns?_createProcedure`, `assignedColumns?_updateProcedure`: what is inserted and set;
* `key_counts`: how many parameters there are for the lookup column;
* `keyKeptOut_iff`: when it stays out of the value lists.
-/

namespace TablePackage.Sql

open Ascii Package Routine

variable {T c d mark S : Text} {cs : List Text} {n : Naming} {s : Schema} {g : Generated}

/-! ## Columns of parameters and statements -/

/-- A parameter is for the column `c` of the table `T` if it has its type. -/
def IsFor (T c parameter : Text) : Prop :=
  (tokens "IN" ++ T :: (tokens "." ++ c :: tokens "%TYPE")) <:+ tokens parameter

instance (T c parameter : Text) : Decidable (IsFor T c parameter) :=
  inferInstanceAs (Decidable (_ <:+ _))

/-- The number of parameters that a procedure has for a column. -/
def parametersFor (T c : Text) (p : Procedure) : Nat :=
  p.parameters.countP fun t => IsFor T c t

/-- The columns that a procedure inserts, if this is what it does first. -/
def insertedColumns? (p : Procedure) : Option (Listing Text) := do
  let (_, ws) ← token? (← phrase? "INSERT INTO" (p.statements.flatMap tokens))
  let (columns, _) ← parenthesized? ws
  listing? word? columns

/-- The column on the left of an assignment. -/
def leftSide? : List Text → Option Text
  | [] => none
  | column :: ws => (phrase? "=" ws).map fun _ => column

/-- The columns that a procedure sets: the assignments stand in its second line. -/
def assignedColumns? (p : Procedure) : Option (Listing Text) :=
  p.statements[1]?.bind fun t => listing? leftSide? (tokens t)

/-- The parameter for a column is for no other column. -/
theorem isFor_parameter_iff (hT : IsName T) (hc : IsName c) (mark : Text) :
    IsFor T d (parameter mark T c) ↔ c = d := by
  rw [IsFor, tokens_parameter hT hc]
  constructor
  · intro h
    have hself := List.suffix_append (tokens (mark ++ c))
      (tokens "IN" ++ T :: (tokens "." ++ c :: tokens "%TYPE"))
    have heq := (List.suffix_of_suffix_length_le h hself (Nat.le_refl _)).eq_of_length rfl
    simp only [List.append_cancel_left_eq, List.cons.injEq, true_and] at heq
    exact heq.1.symm
  · rintro rfl
    exact List.suffix_append ..

/-- If a procedure has parameters for some columns, it has as many for a column as it is among
    these. -/
theorem parametersFor_eq_count {p : Procedure}
    (hparameters : p.parameters = cs.map (parameter mark T)) (hT : IsName T)
    (hcs : ∀ c ∈ cs, IsName c) : parametersFor T d p = cs.count d := by
  rw [parametersFor, hparameters, List.countP_map, List.count]
  refine List.countP_congr fun c hc => ?_
  rw [Function.comp_apply, decide_eq_true_iff, isFor_parameter_iff hT (hcs c hc), beq_iff_eq]

/-- The columns that are inserted are those that are no keys. -/
theorem insertedColumns?_createProcedure (hT : IsName s.table) (hcs : ∀ c ∈ valueNames s, IsName c)
    (n : Naming) : insertedColumns? (createProcedure n s) = some (.of (valueNames s)) := by
  have hclose : (")" : Text) ∉ (Listing.of (valueNames s)).words fun w => [w] :=
    IsDelimiter.not_mem_names (.inr (.inl rfl)) (by decide) hcs
  rw [insertedColumns?, statements_createProcedure, List.flatMap_cons, tokens_columns hT hcs]
  simp only [List.append_assoc, List.cons_append, phrase?_append, token?,
    parenthesized?_append hclose, Option.bind_eq_bind, Option.bind_some]
  exact listing?_names (l := .of (valueNames s)) rfl hcs

/-- So are the columns that are set. -/
theorem assignedColumns?_updateProcedure (hcs : ∀ c ∈ valueNames s, IsName c)
    (hmark : ',' ∉ n.update) :
    assignedColumns? (updateProcedure n s) = some (.of (valueNames s)) := by
  have hline : (updateProcedure n s).statements[1]? = some (Procedure.indent ++
      Text.join (",\n" ++ Procedure.statementIndent ++ Procedure.indent)
        ((valueNames s).map fun c => c ++ " = " ++ n.update ++ c)) := by
    rw [statements_updateProcedure]
    rfl
  have hcomma : ∀ c ∈ valueNames s, comma ∉ tokens (c ++ " = " ++ n.update ++ c) := by
    intro c hc hmem
    have hmem : ',' ∈ c ++ " = " ++ n.update ++ c :=
      (mem_of_mem_tokens hmem List.mem_cons_self).1
    have hname : ',' ∉ c := (hcs c hc).letters.not_mem rfl
    simp only [List.mem_append, hname, hmark, or_false, false_or] at hmem
    exact absurd hmem (by decide)
  rw [assignedColumns?, hline, Option.bind_some, tokens_blanks (by decide),
    tokens_join (fun _ => stops_cons (by decide)) (by decide), List.map_map]
  refine listing?_intercalate (List.forall₂_map_left_iff.2 (List.forall₂_same.2 fun c hc => ?_))
  refine ⟨?_, ?_, hcomma c hc⟩ <;> rw [Function.comp_apply, tokens_equation (hcs c hc)]
  · rw [leftSide?, phrase?_append, Option.map_some]
  · exact List.cons_ne_nil _ _

/-! ## The lookup column -/

/-- The lookup column stays out of the value lists: rows are created without it, it is not set,
    and it is taken once to look up a row. -/
def KeyKeptOut (s : Schema) (ps : List Procedure) : Prop :=
  ∃ create update delete getById getAll columns assigned,
    ps = [create, update, delete, getById, getAll] ∧
    create.name = "create_" ++ s.table ∧ parametersFor s.table s.key create = 0 ∧
    insertedColumns? create = some columns ∧ s.key ∉ columns.entries ∧
    update.name = "update_" ++ s.table ∧ parametersFor s.table s.key update = 1 ∧
    assignedColumns? update = some assigned ∧ s.key ∉ assigned.entries ∧
    delete.name = "delete_" ++ s.table ∧ parametersFor s.table s.key delete = 1 ∧
    getById.name = "gid_" ++ s.table ++ "_by_id" ∧ parametersFor s.table s.key getById = 1

/-- The procedures have a parameter for the lookup column as often as they insert or set it, and one
    more to look up a row. -/
theorem key_counts (hT : IsName s.table) (hk : IsName s.key) (hcs : ∀ c ∈ valueNames s, IsName c)
    (n : Naming) :
    (proceduresOf n s).map (parametersFor s.table s.key) =
      [(valueNames s).count s.key, (valueNames s).count s.key + 1, 1, 1, 0] := by
  have hdelete : (deleteProcedure n s).parameters = [s.key].map (parameter n.delete s.table) := rfl
  have hgetById : (getByIdProcedure n s).parameters = [s.key].map (parameter n.getById s.table) :=
    rfl
  have hkey : ∀ c ∈ [s.key], IsName c := List.forall_mem_singleton.2 hk
  rw [proceduresOf, List.map_cons, List.map_cons, List.map_cons, List.map_cons,
    parametersFor_eq_count (parameters_createProcedure n s) hT hcs,
    parametersFor_eq_count (parameters_updateProcedure n s) hT (List.forall_mem_cons.2 ⟨hk, hcs⟩),
    parametersFor_eq_count hdelete hT hkey, parametersFor_eq_count hgetById hT hkey,
    List.count_cons_self, List.count_singleton_self]
  rfl

/-- The lookup column is none of those that are inserted and set if all its declarations are
    flagged. -/
theorem key_not_mem_valueNames_iff :
    s.key ∉ valueNames s ↔ ∀ c ∈ s.columns, c.name = s.key → c.isKey = true := by
  constructor
  · intro h c hc hname
    by_contra hkey
    exact h (List.mem_map.2 ⟨c, List.mem_filter.2 ⟨hc, by simpa using hkey⟩, hname⟩)
  · intro h hmem
    obtain ⟨c, hc, hname⟩ := List.mem_map.1 hmem
    obtain ⟨hc, hvalue⟩ := List.mem_filter.1 hc
    rw [h c hc hname] at hvalue
    cases hvalue

/-- The lookup column stays out of the value lists if it is none of the columns that are no keys. -/
theorem keyKeptOut_proceduresOf_iff (hT : IsName s.table) (hk : IsName s.key)
    (hcs : ∀ c ∈ valueNames s, IsName c) (hmark : ',' ∉ n.update) :
    KeyKeptOut s (proceduresOf n s) ↔ s.key ∉ valueNames s := by
  have hinserted := insertedColumns?_createProcedure hT hcs n
  have hassigned := assignedColumns?_updateProcedure hcs hmark
  constructor
  · rintro ⟨create, _, _, _, _, columns, _, hps, -, -, hcolumns, hkey, -⟩
    obtain ⟨rfl, -⟩ := List.cons.inj hps
    obtain rfl := Option.some.inj (hinserted.symm.trans hcolumns)
    exact hkey
  · intro hkey
    have hcounts := key_counts hT hk hcs n
    rw [List.count_eq_zero_of_not_mem hkey] at hcounts
    simp only [proceduresOf, List.map_cons, List.cons.injEq] at hcounts
    obtain ⟨hcreate, hupdate, hdelete, hgetById, -⟩ := hcounts
    exact ⟨_, _, _, _, _, _, _, rfl, rfl, hcreate, hinserted, hkey, rfl, hupdate, hassigned, hkey,
      rfl, hdelete, rfl, hgetById⟩

/-- The lookup column stays out of the value lists of a package exactly if it is flagged as a key
    wherever it is declared. -/
theorem keyKeptOut_iff (hbuild : Generated.build S n true = .ok g)
    (hfragments : ∀ t ∈ n.fragments, Value.isFragment t = true) :
    KeyKeptOut g.schema g.package.procedures ↔
      ∀ c ∈ g.schema.columns, c.name = g.schema.key → c.isKey = true := by
  have hk := isName_key_of_build hbuild
  obtain ⟨-, hfault, rfl⟩ := Generated.build_eq_ok_iff.1 hbuild
  have hT : IsName (Schema.ofText S).table :=
    ⟨(Schema.ne_nil_of_fault? hfault).1, (Schema.worded_ofText S).table⟩
  have hcs : ∀ c ∈ valueNames (Schema.ofText S), IsName c :=
    List.forall_mem_map.2 fun c hc => Schema.isName_of_mem_ofText (List.mem_filter.1 hc).1
  have hmark : ',' ∉ n.update :=
    Value.not_mem_of_isFragment (hfragments n.update (by simp [Naming.fragments])) (by decide)
  exact (keyKeptOut_proceduresOf_iff hT hk hcs hmark).trans key_not_mem_valueNames_iff

/-- A table in which the lookup column is declared twice, each time with its flag. -/
def flaggedTable : Text :=
  "table_name(\"T\");table_attr(\"ID\").primarykey;table_attr(\"N\");table_attr(\"ID\").primarykey;"

def flaggedSchema : Schema := ⟨"T", [⟨"ID", true⟩, ⟨"N", false⟩, ⟨"ID", true⟩], "ID"⟩

theorem keyKeptOut_flaggedTable :
    ∃ g, Generated.build flaggedTable {} true = .ok g ∧
      (∀ t ∈ Naming.fragments {}, Value.isFragment t = true) ∧ g.schema = flaggedSchema ∧
      KeyKeptOut flaggedSchema g.package.procedures := by
  have hbuild : Generated.build flaggedTable {} true =
      .ok (.ofSchema flaggedTable {} flaggedSchema) :=
    build_of_ofText (by decide +kernel) (by decide +kernel) (by decide) {}
  have hfragments : ∀ t ∈ Naming.fragments {}, Value.isFragment t = true := by decide
  exact ⟨_, hbuild, hfragments, rfl, (keyKeptOut_iff hbuild hfragments).2 (by decide)⟩

/-- A table in which the lookup column is declared again, without its flag. -/
def repeatedTable : Text :=
  "table_name(\"T\");table_attr(\"ID\").primarykey;table_attr(\"ID\");table_attr(\"NAME\");"

def repeatedSchema : Schema := ⟨"T", [⟨"ID", true⟩, ⟨"ID", false⟩, ⟨"NAME", false⟩], "ID"⟩

/-- Rows are created with a value for the lookup column if it is declared again. -/
theorem not_keyKeptOut_always :
    ¬∀ S n g, Generated.build S n true = .ok g →
      (∀ t ∈ n.fragments, Value.isFragment t = true) →
      KeyKeptOut g.schema g.package.procedures := by
  intro h
  have hbuild : Generated.build repeatedTable {} true =
      .ok (.ofSchema repeatedTable {} repeatedSchema) :=
    build_of_ofText (by decide +kernel) (by decide +kernel) (by decide) {}
  obtain ⟨create, _, _, _, _, _, _, hps, -, hcreate, -⟩ := h repeatedTable {} _ hbuild (by decide)
  obtain ⟨rfl, -⟩ := List.cons.inj hps
  exact absurd hcreate (by decide)

end TablePackage.Sql
