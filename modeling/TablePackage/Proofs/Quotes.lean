import Mathlib.Tactic.Common
import TablePackage.Generation
import TablePackage.Proofs.Config
import TablePackage.Proofs.Declaration.Extension

/-!
# Generated texts have no quotes

The declarations of a table need quotes, and the package of a table has none: its text consists of
fixed phrases, of names that have been read, and of parts of identifiers. So a generated text may
be put behind any other without changing what that one declares (`Package.Nameable.seam`).
-/

namespace TablePackage

/-! ## Procedures -/

namespace Procedure

/-- Nothing of which a procedure is made has a quote. -/
structure Quoteless (p : Procedure) : Prop where
  name : '"' ∉ p.name
  parameters : ∀ t ∈ p.parameters, '"' ∉ t
  statements : ∀ t ∈ p.statements, '"' ∉ t
  locals : ∀ t ∈ p.locals, '"' ∉ t

variable {p : Procedure}

theorem Quoteless.signature (h : p.Quoteless) : '"' ∉ p.signature := by
  have hblock : '"' ∉ p.parameterBlock := by
    have hjoin : '"' ∉ Text.join ",\n" p.parameters := Text.not_mem_join (by decide) h.parameters
    unfold parameterBlock
    split
    · exact List.not_mem_nil
    · rename_i c block hc
      rw [hc] at hjoin
      simpa using hjoin
  have hheader : '"' ∉ indent ++ "PROCEDURE " ++ p.name := by
    simp only [List.mem_append, not_or]
    exact ⟨⟨by decide, by decide⟩, h.name⟩
  rw [Procedure.signature]
  split
  · simp only [List.mem_append, not_or] at hheader ⊢
    exact ⟨⟨⟨⟨hheader, by decide⟩, hblock⟩, by decide⟩, by decide⟩
  · exact hheader

theorem Quoteless.declaration (h : p.Quoteless) : '"' ∉ p.declaration := by
  rw [Procedure.declaration, List.mem_append, not_or]
  exact ⟨h.signature, by decide⟩

theorem Quoteless.definition (h : p.Quoteless) : '"' ∉ p.definition := by
  have hindented : ∀ {u : Text} {ts : List Text}, '"' ∉ u → (∀ t ∈ ts, '"' ∉ t) →
      ∀ t ∈ ts.map (u ++ ·), '"' ∉ t := fun hu hts t ht => by
    obtain ⟨v, hv, rfl⟩ := List.mem_map.1 ht
    rw [List.mem_append, not_or]
    exact ⟨hu, hts v hv⟩
  have hlast : '"' ∉ indent ++ "END " ++ p.name ++ ";" := by
    simp only [List.mem_append, not_or]
    exact ⟨⟨⟨by decide, by decide⟩, h.name⟩, by decide⟩
  refine Text.not_mem_join (by decide) ?_
  simp only [List.forall_mem_append, List.forall_mem_singleton]
  refine ⟨⟨⟨⟨?_, hindented (by decide) h.locals⟩, by decide⟩,
    hindented (by decide) h.statements⟩, hlast⟩
  rw [List.mem_append, not_or]
  exact ⟨h.signature, by decide⟩

end Procedure

/-! ## Packages -/

namespace Package

/-- No name of which a package is made has a quote. -/
structure Nameable (n : Naming) (s : Schema) : Prop where
  table : '"' ∉ s.table
  key : '"' ∉ s.key
  columns : ∀ c ∈ s.columns, '"' ∉ c.name
  fragments : ∀ t ∈ n.fragments, '"' ∉ t

variable {n : Naming} {s : Schema}

theorem quote_not_mem_parameter {mark table column : Text} (hmark : '"' ∉ mark)
    (htable : '"' ∉ table) (hcolumn : '"' ∉ column) : '"' ∉ parameter mark table column := by
  simp only [parameter, List.mem_append, not_or]
  exact ⟨⟨⟨⟨⟨⟨⟨by decide, hmark⟩, hcolumn⟩, by decide⟩, htable⟩, by decide⟩, hcolumn⟩, by decide⟩

theorem Nameable.valueColumns (h : Nameable n s) : ∀ c ∈ s.valueColumns, '"' ∉ c.name :=
  fun c hc => h.columns c (List.mem_filter.1 hc).1

theorem Nameable.mark (h : Nameable n s) : '"' ∉ n.create ∧ '"' ∉ n.update ∧ '"' ∉ n.delete ∧
    '"' ∉ n.getById ∧ '"' ∉ n.packageSuffix := by
  simpa [Naming.fragments] using h.fragments

/-- Texts made of the value columns have no quotes if each of them has none. -/
theorem Nameable.join (h : Nameable n s) {separator : Text} {f : Column → Text}
    (hsep : '"' ∉ separator) (hf : ∀ c : Column, '"' ∉ c.name → '"' ∉ f c) :
    '"' ∉ Text.join separator (s.valueColumns.map f) :=
  Text.not_mem_join hsep <| List.forall_mem_map.2 fun c hc => hf c (h.valueColumns c hc)

theorem Nameable.createProcedure (h : Nameable n s) : (createProcedure n s).Quoteless := by
  obtain ⟨hcreate, -⟩ := h.mark
  have htable := h.table
  have hnames : '"' ∉ commaList (s.valueColumns.map (·.name)) := h.join (by decide) fun _ hc => hc
  have hvalues : '"' ∉ commaList (s.valueColumns.map (n.create ++ ·.name)) :=
    h.join (by decide) fun c hc => by simp [hcreate, hc]
  refine ⟨?_, ?_, ?_, List.forall_mem_nil _⟩
  · change '"' ∉ ("create_" : Text) ++ s.table
    simp [htable]
  · exact List.forall_mem_map.2 fun c hc =>
      quote_not_mem_parameter hcreate htable (h.valueColumns c hc)
  · refine List.forall_mem_cons.2 ⟨?_, List.forall_mem_cons.2 ⟨?_, by decide⟩⟩
    · simp [htable, hnames]
    · simp [hvalues]

theorem Nameable.updateProcedure (h : Nameable n s) : (updateProcedure n s).Quoteless := by
  obtain ⟨-, hupdate, -⟩ := h.mark
  have htable := h.table
  have hkey := h.key
  have hassignments : '"' ∉ Text.join (",\n" ++ Procedure.statementIndent ++ Procedure.indent)
      (s.valueColumns.map fun c => c.name ++ " = " ++ n.update ++ c.name) :=
    h.join (by decide) fun c hc => by simp [hupdate, hc]
  refine ⟨?_, ?_, ?_, List.forall_mem_nil _⟩
  · change '"' ∉ ("update_" : Text) ++ s.table
    simp [htable]
  · exact List.forall_mem_cons.2 ⟨quote_not_mem_parameter hupdate htable hkey,
      List.forall_mem_map.2 fun c hc =>
        quote_not_mem_parameter hupdate htable (h.valueColumns c hc)⟩
  · refine List.forall_mem_cons.2 ⟨?_, List.forall_mem_cons.2 ⟨?_, List.forall_mem_cons.2
      ⟨?_, by decide⟩⟩⟩
    · simp [htable]
    · rw [List.mem_append, not_or]
      exact ⟨by decide, hassignments⟩
    · simp [hkey, hupdate]

theorem Nameable.deleteProcedure (h : Nameable n s) : (deleteProcedure n s).Quoteless := by
  obtain ⟨-, -, hdelete, -⟩ := h.mark
  have htable := h.table
  have hkey := h.key
  refine ⟨?_, ?_, ?_, List.forall_mem_nil _⟩
  · change '"' ∉ ("delete_" : Text) ++ s.table
    simp [htable]
  · exact List.forall_mem_singleton.2 (quote_not_mem_parameter hdelete htable hkey)
  · refine List.forall_mem_cons.2 ⟨?_, by decide⟩
    simp [htable, hkey, hdelete]

theorem Nameable.getByIdProcedure (h : Nameable n s) : (getByIdProcedure n s).Quoteless := by
  obtain ⟨-, -, -, hgetById, -⟩ := h.mark
  have htable := h.table
  have hkey := h.key
  refine ⟨?_, ?_, ?_, (by decide : ∀ t ∈ [("c_gid SYS_REFCURSOR;" : Text)], '"' ∉ t)⟩
  · change '"' ∉ ("gid_" : Text) ++ s.table ++ "_by_id"
    simp [htable]
  · exact List.forall_mem_singleton.2 (quote_not_mem_parameter hgetById htable hkey)
  · refine List.forall_mem_cons.2 ⟨?_, by decide⟩
    simp [htable, hkey, hgetById]

theorem Nameable.getAllProcedure (h : Nameable n s) : (getAllProcedure s).Quoteless := by
  have htable := h.table
  refine ⟨?_, List.forall_mem_nil _, ?_,
    (by decide : ∀ t ∈ [("c_g_all SYS_REFCURSOR;" : Text)], '"' ∉ t)⟩
  · change '"' ∉ ("get_all_" : Text) ++ s.table
    simp [htable]
  · refine List.forall_mem_cons.2 ⟨?_, by decide⟩
    simp [htable]

/-- The procedures of a package have no quotes. -/
theorem Nameable.quoteless (h : Nameable n s) : ∀ p ∈ proceduresOf n s, p.Quoteless := by
  simp only [proceduresOf, List.forall_mem_cons]
  exact ⟨h.createProcedure, h.updateProcedure, h.deleteProcedure, h.getByIdProcedure,
    h.getAllProcedure, List.forall_mem_nil _⟩

/-- A block has no quotes if its opening, its name and its members have none. -/
theorem quote_not_mem_block {opening name : Text} {members : List Text} (hopening : '"' ∉ opening)
    (hname : '"' ∉ name) (hmembers : ∀ t ∈ members, '"' ∉ t) :
    '"' ∉ block opening name members := by
  have hbody : '"' ∉ members.flatMap (· ++ ("\n\n" : Text)) := fun hmem => by
    obtain ⟨t, ht, hc⟩ := List.mem_flatMap.1 hmem
    rcases List.mem_append.1 hc with hc | hc
    · exact hmembers t ht hc
    · exact absurd hc (by decide)
  simp only [block, List.mem_append, not_or]
  exact ⟨⟨⟨⟨⟨hopening, by decide⟩, hbody⟩, by decide⟩, hname⟩, by decide⟩

end Package

/-! ## Insertions -/

variable {n : Naming} {s : Schema} {g : Generated}

/-- What is inserted has no quotes. -/
theorem Package.Nameable.insertion (h : Nameable n s) (selection : Text) :
    '"' ∉ (Generated.ofSchema selection n s).insertion := by
  obtain ⟨-, -, -, -, hsuffix⟩ := h.mark
  have hname : '"' ∉ n.packageName s.table := by
    rw [Naming.packageName, List.mem_append, not_or]
    exact ⟨h.table, hsuffix⟩
  have hdeclarations : '"' ∉ (Package.ofSchema n s).declarations := by
    refine quote_not_mem_block (by simp [hname]) hname ?_
    exact List.forall_mem_map.2 fun p hp => (h.quoteless p hp).declaration
  have hdefinitions : '"' ∉ (Package.ofSchema n s).definitions := by
    refine quote_not_mem_block (by simp [hname]) hname ?_
    exact List.forall_mem_map.2 fun p hp => (h.quoteless p hp).definition
  rw [Generated.insertion]
  simp only [List.mem_append, not_or]
  exact ⟨⟨⟨by decide, hdeclarations⟩, by decide⟩, hdefinitions⟩

/-- Insertions one after the other are a seam. -/
theorem Package.Nameable.seam {ns : List Naming} (h : ∀ n ∈ ns, Nameable n s) (selection : Text) :
    Declaration.Seam (ns.flatMap fun n => (Generated.ofSchema selection n s).insertion) := by
  constructor
  · intro hmem
    obtain ⟨n, hn, hquote⟩ := List.mem_flatMap.1 hmem
    exact (h n hn).insertion selection hquote
  · intro c hc
    cases ns with
    | nil => cases hc
    | cons n ns =>
      -- The first insertion starts with line feeds and the keyword `CREATE`.
      obtain rfl : 'C' = c := Option.some.inj hc
      decide

/-! ## Names that have been read -/

/-- A part of an identifier has only word characters and line feeds. -/
theorem Value.not_mem_of_isFragment {t : Text} (h : Value.isFragment t = true) {c : Char}
    (hc : Ascii.isWord c = false ∧ c ≠ '\n') : c ∉ t := by
  intro hmem
  rw [← t.takeWhile_append_dropWhile (p := Ascii.isWord)] at hmem
  rcases List.mem_append.1 hmem with hmem | hmem
  · have hword := Text.forall_mem_takeWhile Ascii.isWord t _ hmem
    rw [hc.1] at hword
    cases hword
  · rw [Value.isFragment, Bool.or_eq_true, decide_eq_true_iff, decide_eq_true_iff] at h
    rcases h with h | h <;> rw [h] at hmem
    · cases hmem
    · exact hc.2 (List.mem_singleton.1 hmem)

/-- The key of a schema is the name of one of its columns, if there is one. -/
theorem Schema.key_ofColumns_mem (table : Text) (cs : List Column) :
    (Schema.ofColumns table cs).key = [] ∨ ∃ c ∈ cs, (Schema.ofColumns table cs).key = c.name := by
  cases hlast : (cs.filter (·.isKey)).getLast? with
  | none => exact .inl (by rw [Schema.ofColumns, hlast]; rfl)
  | some c =>
    have hc := List.mem_of_getLast? hlast
    exact .inr ⟨c, (List.mem_filter.1 hc).1, by rw [Schema.ofColumns, hlast]; rfl⟩

/-- All columns that are extracted from a text are named by words. -/
theorem Schema.isName_of_mem_ofText {t : Text} {c : Column} (hc : c ∈ (Schema.ofText t).columns) :
    Ascii.IsName c.name := by
  obtain ⟨m, hm, rfl⟩ := List.mem_map.1 hc
  exact Declaration.isName_of_mem_scan hm

/-- All names of a schema are words; they may be empty. -/
structure Schema.Worded (s : Schema) : Prop where
  table : Ascii.Letters s.table
  key : Ascii.Letters s.key
  columns : ∀ c ∈ s.columns, Ascii.Letters c.name

/-- All names that are read in a text are words. -/
theorem Schema.worded_ofText (t : Text) : (ofText t).Worded where
  table := by
    rcases Declaration.tableName_eq_nil_or t with h | h
    · change Ascii.Letters (Declaration.tableName t)
      rw [h]
      exact List.forall_mem_nil _
    · exact h.letters
  key := by
    rcases key_ofColumns_mem (Declaration.tableName t) ((Declaration.scan t).map (·.column)) with
      h | ⟨c, hc, h⟩
    · rw [ofText, h]
      exact List.forall_mem_nil _
    · rw [ofText, h]
      exact (isName_of_mem_ofText hc).letters
  columns _ hc := (isName_of_mem_ofText hc).letters

/-- A schema that is extracted from a text, and a naming that has been read, have no quotes. -/
theorem Package.nameable_ofText (hn : ∀ t ∈ n.fragments, Value.isFragment t = true) (t : Text) :
    Nameable n (Schema.ofText t) where
  table := (Schema.worded_ofText t).table.not_mem rfl
  key := (Schema.worded_ofText t).key.not_mem rfl
  columns c hc := ((Schema.worded_ofText t).columns c hc).not_mem rfl
  fragments u hu := Value.not_mem_of_isFragment (hn u hu) (by decide)

end TablePackage
