import Mathlib.Data.List.Nodup
import TablePackage.Proofs.Sql.Keys

/-!
# Parameters among columns

In the condition of a statement, a name stands for a column if the table has one of this name, in
whatever letter case, and for a parameter only otherwise. The parameters are named after columns,
with a mark in front, and nobody compares these names with the other columns. So a parameter is
shadowed if there happens to be a column with its name. Under an empty mark all are, and the
condition holds of every row.

* `namedAfter_of_entries`: when parameters have the names of columns, or of each other;
* `compares_equation`: what a key is compared with;
* `parameters_shadow_columns`: both for the procedures of a package.
-/

namespace TablePackage.Sql

open Ascii Package Routine

variable {a b c mark name S : Text} {taken : List Text} {n : Naming} {s : Schema} {d : Definition}
  {g : Generated}

/-! ## Names in any letter case -/

/-- A name in lower case, by which names are the same. -/
def lower (name : Text) : Text := name.map Char.toLower

/-- The table has a column of this name. -/
def Declares (s : Schema) (name : Text) : Prop := ∃ c ∈ s.columns, SameName c.name name

instance : Decidable (Declares s name) :=
  inferInstanceAs (Decidable (∃ c ∈ s.columns, SameName c.name name))

theorem sameName_append_left : SameName (mark ++ a) (mark ++ b) ↔ SameName a b := by
  rw [SameName, List.map_append, List.map_append, List.append_cancel_left_eq, SameName]

/-- A name is another one with a mark in front of it, unless the mark is empty. -/
theorem sameName_append_self_iff : SameName (mark ++ name) name ↔ mark = [] := by
  refine ⟨fun h => ?_, fun h => by rw [h, List.nil_append, SameName]⟩
  have hlength := congrArg List.length h
  rw [List.length_map, List.length_map, List.length_append] at hlength
  exact List.length_eq_zero_iff.1 (by omega)

/-! ## Names of parameters -/

/-- What the names of the parameters of `d` have to do with those of the columns, and with each
    other: the parameters are for the columns `taken`, and are made with `mark`. -/
structure NamedAfter (s : Schema) (mark : Text) (taken : List Text) (d : Definition) : Prop where
  /-- A parameter has the name of a column if a column is named like another one with the mark. -/
  shadowed_iff : (∃ a ∈ d.arguments.entries, Declares s a.name) ↔
    ∃ c ∈ taken, Declares s (mark ++ c)
  /-- All do under an empty mark. -/
  all_shadowed : mark = [] → ∀ a ∈ d.arguments.entries, Declares s a.name
  /-- None does if no name of a column starts with the mark. -/
  none_shadowed : (∀ c ∈ s.columns, ¬lower mark <+: lower c.name) →
    ∀ a ∈ d.arguments.entries, ¬Declares s a.name
  /-- The names differ as those of the columns do. -/
  nodup_iff : (d.arguments.entries.map (·.name)).Nodup ↔ taken.Nodup
  /-- So they do when letter case does not count. -/
  apart_iff : d.arguments.entries.Pairwise (fun a b => ¬SameName a.name b.name) ↔
    taken.Pairwise fun a b => ¬SameName a b

theorem namedAfter_of_entries {T : Text}
    (hentries : d.arguments.entries = taken.map (argument mark T))
    (htaken : ∀ c ∈ taken, Declares s c) : NamedAfter s mark taken d where
  shadowed_iff := by
    simp only [hentries, List.mem_map, exists_exists_and_eq_and, argument]
  all_shadowed := by
    rintro rfl
    rw [hentries]
    exact List.forall_mem_map.2 htaken
  none_shadowed := by
    intro hcolumns
    rw [hentries]
    refine List.forall_mem_map.2 fun c _ ⟨column, hcolumn, hsame⟩ => hcolumns column hcolumn ?_
    have hlower : lower column.name = lower mark ++ lower c := hsame.trans List.map_append
    exact hlower ▸ List.prefix_append _ _
  nodup_iff := by
    rw [hentries, List.map_map]
    exact List.nodup_map_iff (List.append_right_injective mark)
  apart_iff := by
    rw [hentries, List.pairwise_map]
    simp only [argument, sameName_append_left]

/-! ## Conditions -/

/-- What a name stands for in a condition on `row`. Rows and arguments have their values under
    names in lower case. -/
def valueOf (s : Schema) (arguments row : Text → Text) (name : Text) : Text :=
  if Declares s name then row (lower name) else arguments (lower name)

/-- The condition is met by a row if both sides have the same value. -/
def Equation.Holds (s : Schema) (arguments row : Text → Text) (e : Equation) : Prop :=
  valueOf s arguments row e.column = valueOf s arguments row e.value

/-- The condition of a statement. -/
def Statement.condition? : Statement → Option Equation
  | .update _ _ e => some e
  | .delete _ e => some e
  | .query _ _ e => e
  | .insert .. | .other _ => none

/-- What the key is compared with in a condition whose value is made with `mark`. -/
structure Compares (s : Schema) (mark : Text) (e : Equation) : Prop where
  /-- It is the argument, exactly if no column has the name of the parameter. -/
  argument_iff : (∀ arguments row, e.Holds s arguments row ↔
    row (lower s.key) = arguments (lower (mark ++ s.key))) ↔ ¬Declares s (mark ++ s.key)
  /-- Otherwise it is this column. -/
  column : Declares s (mark ++ s.key) → ∀ arguments row, e.Holds s arguments row ↔
    row (lower s.key) = row (lower (mark ++ s.key))
  /-- It is the key itself, so that all rows are met, exactly if the mark is empty. -/
  all_iff : (∀ arguments row, e.Holds s arguments row) ↔ mark = []

theorem compares_equation (hkey : Declares s s.key) (mark : Text) :
    Compares s mark (equation mark s.key) := by
  have hholds : ∀ arguments row, (equation mark s.key).Holds s arguments row ↔
      row (lower s.key) = valueOf s arguments row (mark ++ s.key) := fun _ _ => by
    rw [Equation.Holds, equation, valueOf, if_pos hkey]
  -- All fields of the row are different from the argument.
  let arguments : Text → Text := fun _ => "1"
  refine ⟨⟨fun h hshadowed => ?_, fun h arguments row => ?_⟩, fun h arguments row => ?_,
    fun h => ?_, ?_⟩
  · have hall := (h arguments fun _ => []).1 <| (hholds _ _).2 <| by rw [valueOf, if_pos hshadowed]
    cases hall
  · rw [hholds, valueOf, if_neg h]
  · rw [hholds, valueOf, if_pos h]
  · -- Only the key differs from the other columns.
    have hrow := (hholds arguments fun name => if name = lower s.key then [] else "1").1 (h _ _)
    rw [if_pos rfl, valueOf] at hrow
    split at hrow
    · split at hrow
      · exact sameName_append_self_iff.1 ‹_›
      · cases hrow
    · cases hrow
  · rintro rfl arguments row
    rw [hholds, List.nil_append, valueOf, if_pos hkey]

/-- The first statement of a procedure compares the key. -/
def LooksUp (s : Schema) (mark : Text) (d : Definition) : Prop :=
  ∃ e, d.statements.head?.bind Statement.condition? = some e ∧ Compares s mark e

/-! ## The procedures of a package -/

/-- How the parameters of a package are named among the columns of its table. -/
def NamedAmongColumns (n : Naming) (s : Schema) (p : Package) : Prop :=
  ∃ create update delete getById getAll,
    package? p.definitions = some (p.name, [create, update, delete, getById, getAll]) ∧
    create.name = "create_" ++ s.table ∧ NamedAfter s n.create (valueNames s) create ∧
    update.name = "update_" ++ s.table ∧ NamedAfter s n.update (s.key :: valueNames s) update ∧
    ((update.arguments.entries.map (·.name)).Nodup ↔ (valueNames s).Nodup) ∧
    LooksUp s n.update update ∧
    delete.name = "delete_" ++ s.table ∧ NamedAfter s n.delete [s.key] delete ∧
    LooksUp s n.delete delete ∧
    getById.name = "gid_" ++ s.table ++ "_by_id" ∧ NamedAfter s n.getById [s.key] getById ∧
    LooksUp s n.getById getById

/-- A column that a parameter is for is declared. -/
theorem declares_of_mem_valueNames (hc : c ∈ valueNames s) : Declares s c := by
  obtain ⟨column, hcolumn, rfl⟩ := List.mem_map.1 hc
  exact ⟨column, (List.mem_filter.1 hcolumn).1, rfl⟩

/-- So is the lookup column of a package. -/
theorem declares_key_of_build (hbuild : Generated.build S n true = .ok g) :
    Declares g.schema g.schema.key := by
  have hne := (isName_key_of_build hbuild).1
  obtain ⟨-, -, rfl⟩ := Generated.build_eq_ok_iff.1 hbuild
  obtain ⟨c, hc, hname⟩ := (Schema.key_ofColumns_mem _ _).resolve_left hne
  exact ⟨c, hc, congrArg lower hname.symm⟩

/-- The lookup column is no value column here: otherwise an update has two parameters for it. -/
theorem namedAmongColumns_ofSchema (hnamed : Named n s) (hname : IsName s.key)
    (hkey : Declares s s.key) (hkept : s.key ∉ valueNames s) :
    NamedAmongColumns n s (.ofSchema n s) := by
  have hvalues : ∀ c ∈ valueNames s, Declares s c := fun c hc => declares_of_mem_valueNames hc
  have hlookup : ∀ c ∈ [s.key], Declares s c := List.forall_mem_singleton.2 hkey
  have hupdate : NamedAfter s n.update (s.key :: valueNames s) (updateDefinition n s) :=
    namedAfter_of_entries rfl (List.forall_mem_cons.2 ⟨hkey, hvalues⟩)
  have hnodup : (s.key :: valueNames s).Nodup ↔ (valueNames s).Nodup := by
    rw [List.nodup_cons, and_iff_right hkept]
  exact ⟨_, _, _, _, _, package?_definitions hnamed hname,
    rfl, namedAfter_of_entries rfl hvalues,
    rfl, hupdate, hupdate.nodup_iff.trans hnodup, ⟨_, rfl, compares_equation hkey n.update⟩,
    rfl, namedAfter_of_entries rfl hlookup, ⟨_, rfl, compares_equation hkey n.delete⟩,
    rfl, namedAfter_of_entries rfl hlookup, ⟨_, rfl, compares_equation hkey n.getById⟩⟩

/-- In a package whose key is flagged wherever it is declared, a parameter has the name of a column
    exactly if there is a column with the name of the parameter's column behind the mark, and two
    parameters have the same name exactly if their columns have. The key is compared with the
    argument exactly if there is no column with the name of the key behind the mark, and with itself
    exactly if the mark is empty. -/
theorem parameters_shadow_columns (hbuild : Generated.build S n true = .ok g)
    (hletters : ∀ t ∈ n.fragments, Letters t)
    (hflagged : ∀ c ∈ g.schema.columns, c.name = g.schema.key → c.isKey = true) :
    NamedAmongColumns n g.schema g.package := by
  have hnamed := named_of_build hbuild hletters
  have hname := isName_key_of_build hbuild
  have hkey := declares_key_of_build hbuild
  have hkept := key_not_mem_valueNames_iff.2 hflagged
  obtain ⟨-, -, rfl⟩ := Generated.build_eq_ok_iff.1 hbuild
  exact namedAmongColumns_ofSchema hnamed hname hkey hkept

/-- A table with a column that has the name of a parameter in another letter case. -/
def shadowedTable : Text :=
  "table_name(\"T\");table_attr(\"ID\").primarykey;table_attr(\"D_ID\");table_attr(\"D_ID\");"

def shadowedSchema : Schema := ⟨"T", [⟨"ID", true⟩, ⟨"D_ID", false⟩, ⟨"D_ID", false⟩], "ID"⟩

theorem build_shadowedTable (n : Naming) :
    Generated.build shadowedTable n true = .ok (.ofSchema shadowedTable n shadowedSchema) :=
  build_of_ofText (by decide +kernel) (by decide +kernel) (by decide) n

theorem parameters_shadow_repeated_columns :
    ∃ g, Generated.build shadowedTable { update := "" } true = .ok g ∧
      (∀ t ∈ Naming.fragments { update := "" }, Letters t) ∧ g.schema = shadowedSchema ∧
      (∀ c ∈ shadowedSchema.columns, c.name = shadowedSchema.key → c.isKey = true) ∧
      NamedAmongColumns { update := "" } shadowedSchema g.package := by
  have hbuild := build_shadowedTable { update := "" }
  have hletters : ∀ t ∈ Naming.fragments { update := "" }, Letters t := by decide
  have hflagged : ∀ c ∈ shadowedSchema.columns, c.name = shadowedSchema.key → c.isKey = true := by
    decide
  exact ⟨_, hbuild, hletters, rfl, hflagged, parameters_shadow_columns hbuild hletters hflagged⟩

/-- No parameter of the definition has the name of a column, or of another parameter. -/
def Apart (s : Schema) (d : Definition) : Prop :=
  (∀ a ∈ d.arguments.entries, ¬Declares s a.name) ∧ (d.arguments.entries.map (·.name)).Nodup

/-- A row is deleted by a parameter with the name of a column, even if the prefix is not changed. -/
theorem not_apart_always :
    ¬∀ S n g, Generated.build S n true = .ok g → (∀ t ∈ n.fragments, Value.isFragment t = true) →
      ∃ name ds, package? g.package.definitions = some (name, ds) ∧ ∀ d ∈ ds, Apart g.schema d := by
  intro h
  have hbuild := build_shadowedTable {}
  obtain ⟨name, ds, hread, hapart⟩ := h shadowedTable {} _ hbuild (by decide)
  have hwritten := package?_definitions (named_of_build hbuild (by decide))
    (isName_key_of_build hbuild)
  obtain ⟨-, rfl⟩ := Prod.mk.inj (Option.some.inj (hread.symm.trans hwritten))
  have hdelete : Apart shadowedSchema (deleteDefinition {} shadowedSchema) :=
    hapart _ (.tail _ (.tail _ (.head _)))
  exact hdelete.1 _ (List.mem_singleton.2 rfl) (by decide)

end TablePackage.Sql
