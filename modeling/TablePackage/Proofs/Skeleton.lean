import TablePackage.Proofs.Insertion
import TablePackage.Proofs.Quotes

/-!
# The skeletons of generated texts

What is left of a text without its word characters is its skeleton: the symbols, blanks and ends
of lines that make statements of words. A selection gives a package nothing but names, which are
words, and the number of columns, so two selections with equally many columns that are no keys get
packages with the same skeleton. Nothing that stands in a selection can change it.

The argument relates the two sides at each level: names that are words, schemas with such names
(`Schema.Alike`), procedures whose parts have the same skeletons (`Procedure.Alike`), and the
texts of their packages.

* `Schema.Alike.proceduresOf`: schemas that are alike have procedures that are alike;
* `Schema.Alike.skeleton_toText`: and packages with the same skeleton;
* `selections_share_skeleton`: so have any two selections of which packages are made.
-/

namespace TablePackage

open Ascii

/-! ## Skeletons -/

/-- A text without its word characters. -/
def Text.skeleton (t : Text) : Text := t.filter (!isWord ·)

namespace Text

variable {t u w separator : Text} {ts : List Text}

@[simp] theorem skeleton_append (t u : Text) : skeleton (t ++ u) = skeleton t ++ skeleton u :=
  List.filter_append ..

/-- A word leaves nothing. -/
theorem skeleton_letters (hw : Letters w) : skeleton w = [] :=
  List.filter_eq_nil_iff.2 fun c hc => by rw [hw c hc]; decide

/-- The skeleton of a join joins the skeletons. -/
theorem skeleton_join (separator : Text) (ts : List Text) :
    skeleton (join separator ts) = join (skeleton separator) (ts.map skeleton) := by
  induction ts with
  | nil => rfl
  | cons t ts ih =>
    cases ts with
    | nil => simp only [join, List.map_cons, List.map_nil, List.intercalate_singleton]
    | cons u ts =>
      simp only [join, List.map_cons, List.intercalate_cons_cons, skeleton_append] at ih ⊢
      rw [ih]

end Text

open Text

/-! ## Procedures -/

namespace Procedure

/-- Two procedures whose parts have the same skeletons. No parameter is made of words only. -/
structure Alike (p q : Procedure) : Prop where
  name : skeleton p.name = skeleton q.name
  parameters : p.parameters.map skeleton = q.parameters.map skeleton
  symbolic : ∀ t ∈ p.parameters.map skeleton, t ≠ []
  statements : p.statements.map skeleton = q.statements.map skeleton
  locals : p.locals.map skeleton = q.locals.map skeleton
  takesArguments : p.takesArguments = q.takesArguments

variable {p q : Procedure}

/-- The skeleton of the parameters, if none of them is empty. -/
theorem skeleton_parameterBlock (hp : ∀ t ∈ p.parameters.map skeleton, t ≠ []) :
    skeleton p.parameterBlock =
      if p.parameters.map skeleton = [] then []
      else join ",\n" (p.parameters.map skeleton) ++ ['\n'] := by
  unfold parameterBlock
  cases hts : p.parameters with
  | nil => rfl
  | cons t ts =>
    rw [hts] at hp
    have hne : join ",\n" (t :: ts) ≠ [] := by
      obtain ⟨r, hr⟩ := exists_join_cons ",\n" t ts
      rw [hr]
      refine List.append_ne_nil_of_left_ne_nil (fun ht => ?_) r
      exact hp (skeleton t) List.mem_cons_self (by rw [ht]; rfl)
    rw [if_neg (by simp)]
    split
    · rename_i hnil
      exact absurd hnil hne
    · rename_i c block hblock
      rw [← hblock, skeleton_append, skeleton_join]
      rfl

theorem Alike.signature (h : Alike p q) : skeleton p.signature = skeleton q.signature := by
  have hblock : skeleton p.parameterBlock = skeleton q.parameterBlock := by
    rw [skeleton_parameterBlock h.symbolic, skeleton_parameterBlock (h.parameters ▸ h.symbolic),
      h.parameters]
  unfold Procedure.signature
  rw [h.takesArguments]
  split <;> simp only [skeleton_append, h.name, hblock]

theorem Alike.declaration (h : Alike p q) : skeleton p.declaration = skeleton q.declaration := by
  rw [Procedure.declaration, Procedure.declaration, skeleton_append, skeleton_append, h.signature]

theorem Alike.definition (h : Alike p q) : skeleton p.definition = skeleton q.definition := by
  have hindented : ∀ {ts ts' : List Text}, ts.map skeleton = ts'.map skeleton →
      (ts.map (statementIndent ++ ·)).map skeleton =
        (ts'.map (statementIndent ++ ·)).map skeleton := by
    intro ts ts' hts
    have hcomp : skeleton ∘ (statementIndent ++ ·) = (skeleton statementIndent ++ ·) ∘ skeleton :=
      funext fun t => skeleton_append statementIndent t
    rw [List.map_map, List.map_map, hcomp, ← List.map_map, ← List.map_map, hts]
  unfold Procedure.definition
  rw [skeleton_join, skeleton_join]
  simp only [List.map_append, List.map_cons, List.map_nil, skeleton_append, h.signature, h.name,
    hindented h.locals, hindented h.statements]

end Procedure

/-! ## Schemas -/

namespace Schema

/-- Two schemas whose names are words, with equally many columns that are no keys. -/
structure Alike (s s' : Schema) : Prop where
  left : s.Worded
  right : s'.Worded
  length_eq : s.valueColumns.length = s'.valueColumns.length

/-- Columns that are no keys are named by words. -/
theorem Worded.valueColumns {s : Schema} (h : s.Worded) : ∀ c ∈ s.valueColumns, Letters c.name :=
  fun c hc => h.columns c (List.mem_filter.1 hc).1

namespace Alike

variable {s s' : Schema} {w w' : Text}

theorem skeleton_table (h : Alike s s') : skeleton s.table = skeleton s'.table := by
  rw [skeleton_letters h.left.table, skeleton_letters h.right.table]

theorem skeleton_key (h : Alike s s') : skeleton s.key = skeleton s'.key := by
  rw [skeleton_letters h.left.key, skeleton_letters h.right.key]

/-- The skeleton of a parameter does not depend on the names of its table and column. -/
theorem skeleton_parameter (h : Alike s s') (mark : Text) (hw : Letters w) (hw' : Letters w') :
    skeleton (Package.parameter mark s.table w) =
      skeleton (Package.parameter mark s'.table w') := by
  simp only [Package.parameter, skeleton_append, h.skeleton_table, skeleton_letters hw,
    skeleton_letters hw']

/-- Texts that are made of the columns that are no keys have the same skeletons, if that does not
    depend on the names. -/
theorem map_valueColumns (h : Alike s s') {f f' : Column → Text}
    (hf : ∀ c c' : Column, Letters c.name → Letters c'.name → skeleton (f c) = skeleton (f' c')) :
    (s.valueColumns.map f).map skeleton = (s'.valueColumns.map f').map skeleton := by
  refine List.ext_getElem (by simp only [List.length_map, h.length_eq]) fun i hi hi' => ?_
  rw [List.getElem_map, List.getElem_map, List.getElem_map, List.getElem_map]
  exact hf _ _ (h.left.valueColumns _ (List.getElem_mem _))
    (h.right.valueColumns _ (List.getElem_mem _))

/-- Such texts joined have the same skeleton. -/
theorem skeleton_join (h : Alike s s') (separator : Text) {f f' : Column → Text}
    (hf : ∀ c c' : Column, Letters c.name → Letters c'.name → skeleton (f c) = skeleton (f' c')) :
    skeleton (join separator (s.valueColumns.map f)) =
      skeleton (join separator (s'.valueColumns.map f')) := by
  rw [Text.skeleton_join, Text.skeleton_join, h.map_valueColumns hf]

end Alike
end Schema

/-! ## The procedures of a table -/

namespace Schema.Alike

open Package

variable {s s' : Schema} {n : Naming}

theorem skeleton_parameter_ne_nil (mark table column : Text) :
    skeleton (parameter mark table column) ≠ [] := by
  simp only [parameter, skeleton_append, List.append_assoc]
  exact List.append_ne_nil_of_left_ne_nil (by decide) _

theorem createProcedure (h : Alike s s') :
    (Package.createProcedure n s).Alike (Package.createProcedure n s') where
  name := by
    unfold Package.createProcedure
    simp only [skeleton_append, h.skeleton_table]
  parameters := h.map_valueColumns fun _ _ hc hc' => h.skeleton_parameter n.create hc hc'
  symbolic := by
    unfold Package.createProcedure
    simp only [List.forall_mem_map]
    exact fun c _ => skeleton_parameter_ne_nil n.create s.table c.name
  statements := by
    have hnames : skeleton (commaList (s.valueColumns.map (·.name))) =
        skeleton (commaList (s'.valueColumns.map (·.name))) :=
      h.skeleton_join ", " fun _ _ hc hc' => by rw [skeleton_letters hc, skeleton_letters hc']
    have hvalues : skeleton (commaList (s.valueColumns.map (n.create ++ ·.name))) =
        skeleton (commaList (s'.valueColumns.map (n.create ++ ·.name))) :=
      h.skeleton_join ", " fun _ _ hc hc' => by
        rw [skeleton_append, skeleton_append, skeleton_letters hc, skeleton_letters hc']
    unfold Package.createProcedure
    simp only [List.map_cons, List.map_nil, skeleton_append, h.skeleton_table, hnames, hvalues]
  locals := rfl
  takesArguments := rfl

theorem updateProcedure (h : Alike s s') :
    (Package.updateProcedure n s).Alike (Package.updateProcedure n s') where
  name := by
    unfold Package.updateProcedure
    simp only [skeleton_append, h.skeleton_table]
  parameters := by
    have hvalues : (s.valueColumns.map fun c => parameter n.update s.table c.name).map skeleton =
        (s'.valueColumns.map fun c => parameter n.update s'.table c.name).map skeleton :=
      h.map_valueColumns fun _ _ hc hc' => h.skeleton_parameter n.update hc hc'
    unfold Package.updateProcedure
    simp only [List.map_cons, hvalues, h.skeleton_parameter n.update h.left.key h.right.key]
  symbolic := by
    unfold Package.updateProcedure
    simp only [List.forall_mem_map, List.forall_mem_cons]
    exact ⟨skeleton_parameter_ne_nil n.update s.table s.key,
      fun c _ => skeleton_parameter_ne_nil n.update s.table c.name⟩
  statements := by
    have hassignments : ∀ separator : Text,
        skeleton (join separator
            (s.valueColumns.map fun c => c.name ++ " = " ++ n.update ++ c.name)) =
          skeleton (join separator
            (s'.valueColumns.map fun c => c.name ++ " = " ++ n.update ++ c.name)) :=
      fun separator => h.skeleton_join separator fun _ _ hc hc' => by
        simp only [skeleton_append, skeleton_letters hc, skeleton_letters hc']
    unfold Package.updateProcedure
    simp only [List.map_cons, List.map_nil, skeleton_append, h.skeleton_table, h.skeleton_key,
      hassignments]
  locals := rfl
  takesArguments := rfl

theorem deleteProcedure (h : Alike s s') :
    (Package.deleteProcedure n s).Alike (Package.deleteProcedure n s') where
  name := by
    unfold Package.deleteProcedure
    simp only [skeleton_append, h.skeleton_table]
  parameters := congrArg ([·]) (h.skeleton_parameter n.delete h.left.key h.right.key)
  symbolic := List.forall_mem_singleton.2 (skeleton_parameter_ne_nil n.delete s.table s.key)
  statements := by
    unfold Package.deleteProcedure
    simp only [List.map_cons, List.map_nil, skeleton_append, h.skeleton_table, h.skeleton_key]
  locals := rfl
  takesArguments := rfl

theorem getByIdProcedure (h : Alike s s') :
    (Package.getByIdProcedure n s).Alike (Package.getByIdProcedure n s') where
  name := by
    unfold Package.getByIdProcedure
    simp only [skeleton_append, h.skeleton_table]
  parameters := congrArg ([·]) (h.skeleton_parameter n.getById h.left.key h.right.key)
  symbolic := List.forall_mem_singleton.2 (skeleton_parameter_ne_nil n.getById s.table s.key)
  statements := by
    unfold Package.getByIdProcedure
    simp only [List.map_cons, List.map_nil, skeleton_append, h.skeleton_table, h.skeleton_key]
  locals := rfl
  takesArguments := rfl

theorem getAllProcedure (h : Alike s s') :
    (Package.getAllProcedure s).Alike (Package.getAllProcedure s') where
  name := by
    unfold Package.getAllProcedure
    simp only [skeleton_append, h.skeleton_table]
  parameters := rfl
  symbolic := List.forall_mem_nil _
  statements := by
    unfold Package.getAllProcedure
    simp only [List.map_cons, List.map_nil, skeleton_append, h.skeleton_table]
  locals := rfl
  takesArguments := rfl

/-- Schemas that are alike have procedures that are alike. -/
theorem proceduresOf (h : Alike s s') (n : Naming) :
    List.Forall₂ Procedure.Alike (Package.proceduresOf n s) (Package.proceduresOf n s') :=
  .cons h.createProcedure <| .cons h.updateProcedure <| .cons h.deleteProcedure <|
    .cons h.getByIdProcedure <| .cons h.getAllProcedure .nil

end Schema.Alike

/-! ## Packages -/

open Package

/-- The skeleton of a block comes from those of its opening, its name and its members. -/
theorem skeleton_block {opening opening' name name' : Text} {members members' : List Text}
    (hopening : skeleton opening = skeleton opening') (hname : skeleton name = skeleton name')
    (hmembers : members.map skeleton = members'.map skeleton) :
    skeleton (block opening name members) = skeleton (block opening' name' members') := by
  have hbody : ∀ ts : List Text, skeleton (ts.flatMap (· ++ ("\n\n" : Text))) =
      (ts.map skeleton).flatMap (· ++ skeleton "\n\n") := fun ts => by
    rw [skeleton, List.filter_flatMap, List.flatMap_map]
    exact List.flatMap_congr fun t _ => skeleton_append t "\n\n"
  simp only [block, skeleton_append, hopening, hname, hbody, hmembers]

/-- Schemas that are alike have packages with the same skeleton. -/
theorem Schema.Alike.skeleton_toText {s s' : Schema} (h : Alike s s') (n : Naming) :
    skeleton (ofSchema n s).toText = skeleton (ofSchema n s').toText := by
  have hname : skeleton (n.packageName s.table) = skeleton (n.packageName s'.table) := by
    simp only [Naming.packageName, skeleton_append, skeleton_letters h.left.table,
      skeleton_letters h.right.table]
  have hmembers : ∀ {text : Procedure → Text},
      (∀ p q, p.Alike q → skeleton (text p) = skeleton (text q)) →
      ((Package.proceduresOf n s).map text).map skeleton =
        ((Package.proceduresOf n s').map text).map skeleton := fun htext => by
    rw [List.map_map, List.map_map, ← List.forall₂_eq_eq_eq, List.forall₂_map_left_iff,
      List.forall₂_map_right_iff]
    exact (h.proceduresOf n).imp htext
  have hdeclarations : skeleton (ofSchema n s).declarations =
      skeleton (ofSchema n s').declarations :=
    skeleton_block (by simp only [skeleton_append, hname]) hname
      (hmembers fun _ _ hpq => hpq.declaration)
  have hdefinitions : skeleton (ofSchema n s).definitions = skeleton (ofSchema n s').definitions :=
    skeleton_block (by simp only [skeleton_append, hname]) hname
      (hmembers fun _ _ hpq => hpq.definition)
  simp only [toText, skeleton_append, hdeclarations, hdefinitions]

/-! ## Selections -/

/-- Selections give their packages no structure. If packages are made of two selections under one
    configuration, and they have equally many columns that are no keys, then nothing but word
    characters is different in the texts of the packages. -/
theorem selections_share_skeleton {c : Config} {S S' : Text} {g g' : Generated}
    (h : Generated.build S c.naming c.validation.requireKey = .ok g)
    (h' : Generated.build S' c.naming c.validation.requireKey = .ok g')
    (hlength : g.schema.valueColumns.length = g'.schema.valueColumns.length) :
    skeleton g.package.toText = skeleton g'.package.toText := by
  obtain ⟨-, -, rfl⟩ := Generated.build_eq_ok_iff.1 h
  obtain ⟨-, -, rfl⟩ := Generated.build_eq_ok_iff.1 h'
  have halike : Schema.Alike (Schema.ofText S) (Schema.ofText S') :=
    ⟨Schema.worded_ofText S, Schema.worded_ofText S', hlength⟩
  exact halike.skeleton_toText c.naming

/-- A table without a key and one with a key have packages with the same skeleton. -/
theorem selections_share_skeleton_without_key :
    let c : Config := { validation := ⟨false⟩ }
    let S : Text := "table_name(\"T\");table_attr(\"C\");"
    let S' : Text := "TABLE_NAME (\"ORDERS\");table_attr(\"ID\").primarykey; table_attr(\"TOTAL\");"
    ∃ g g', Generated.build S c.naming c.validation.requireKey = .ok g ∧
      Generated.build S' c.naming c.validation.requireKey = .ok g' ∧ g.schema.key = [] ∧
      g'.schema.key = "ID" ∧ skeleton g.package.toText = skeleton g'.package.toText := by
  intro c S S'
  have h : Generated.build S c.naming c.validation.requireKey = .ok _ :=
    Generated.build_eq_ok_iff.2 ⟨by decide +kernel, by decide +kernel, rfl⟩
  have h' : Generated.build S' c.naming c.validation.requireKey = .ok _ :=
    Generated.build_eq_ok_iff.2 ⟨by decide +kernel, by decide +kernel, rfl⟩
  refine ⟨_, _, h, h', ?_, ?_, selections_share_skeleton h h' ?_⟩
  · change (Schema.ofText S).key = []
    decide +kernel
  · change (Schema.ofText S').key = "ID"
    decide +kernel
  · change (Schema.ofText S).valueColumns.length = (Schema.ofText S').valueColumns.length
    decide +kernel

end TablePackage
