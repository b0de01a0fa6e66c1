import TablePackage.Proofs.Routine.Body
import TablePackage.Proofs.Routine.Statements

/-!
# Inspecting a package

What is read from the two texts of a package is what they are made of: the procedures of the
table in their order, with the parameters and the types they are written with.

* `ofSpecification_procedures`, `ofBody_procedures`: the procedures of any package;
* `inspection_recovers_procedures`: the package of a table.
-/

namespace TablePackage

namespace Routine

open Ascii

variable {T n : Text} {p : Procedure} {ps : List Procedure} {qs : List Parameter}
  {qss : List (List Parameter)}

/-- What is read of a procedure in the package `n`, from the text that `text` makes of it. -/
def ofProcedure (n : Text) (text : Procedure → Text) (p : Procedure) (qs : List Parameter) :
    Routine :=
  ⟨n, p.name, qs, trim (text p)⟩

/-- The heading of a procedure starts with a keyword and a blank. -/
theorem exists_heading (p : Procedure) (t : Text) :
    ∃ x, heading p ++ t = "PROCEDURE" ++ (' ' :: x) := by
  unfold heading
  exact ⟨_, List.append_assoc ..⟩

/-- Procedures are read back from the specification of their package. -/
theorem ofSpecification_procedures (hn : IsName n) (hT : IsName T)
    (h : List.Forall₂ (Legible T) ps qss) :
    ofSpecification (Package.block ("CREATE OR REPLACE PACKAGE " ++ n ++ " IS") n
      (ps.map (·.declaration))) = List.zipWith (ofProcedure n (·.declaration)) ps qss := by
  have hmembers : ps.map (·.declaration) =
      (ps.map fun p => heading p ++ [';']).map (Procedure.indent ++ ·) := by
    rw [List.map_map]
    exact List.map_congr_left fun p _ => declaration_eq p
  rw [hmembers]
  refine ofSpecification_block hn ?_ ?_ ?_
  · exact List.forall_mem_map.2 fun p _ => exists_heading p [';']
  · exact List.forall_mem_map.2 <| Lists.forall_mem_of_forall₂ h fun p qs hp v =>
      misses_declaration hp hT hn
  · exact Lists.forall₂_zipWith h fun p qs hp => reads_declaration hp hT n

/-- Quiet procedures with other names than their package are read back from its body. -/
theorem ofBody_procedures (hn : IsName n) (hT : IsName T) (hne : ¬IsOrAs T)
    (h : List.Forall₂ (Legible T) ps qss) (hquiet : ∀ p ∈ ps, Quiet p)
    (hnames : ∀ p ∈ ps, ¬SameName n p.name) :
    ofBody (Package.block ("CREATE OR REPLACE PACKAGE BODY " ++ n ++ " IS") n
      (ps.map (·.definition))) = List.zipWith (ofProcedure n (·.definition)) ps qss :=
  (ofBody_definitions hn hT hne h hquiet).trans (bodyRoutines_eq_zipWith hnames qss)

end Routine

/-! ## The package of a table -/

namespace Package

open Ascii Routine

variable {n : Naming} {s : Schema} {mark column : Text}

/-- What is read of the parameter for a column. -/
def readParameter (mark table column : Text) : Parameter where
  name := mark ++ column
  type := table ++ "." ++ column ++ "%TYPE"

/-- The parameters of the procedures of a table, in the order of the package. -/
def readParameters (n : Naming) (s : Schema) : List (List Parameter) :=
  let values (mark : Text) := s.valueColumns.map fun c => readParameter mark s.table c.name
  let key (mark : Text) := readParameter mark s.table s.key
  [values n.create, key n.update :: values n.update, [key n.delete], [key n.getById], []]

/-- What is read of the procedures of a table, from the texts that `text` makes of them. -/
def readRoutines (n : Naming) (s : Schema) (text : Procedure → Text) : List Routine :=
  List.zipWith (ofProcedure (n.packageName s.table) text) (proceduresOf n s) (readParameters n s)

theorem writtenParameter (hname : IsName (mark ++ column)) (hcolumn : Letters column) :
    WrittenParameter s.table (readParameter mark s.table column)
      (parameter mark s.table column) where
  name := hname
  mode := rfl
  type := ⟨column, hcolumn, rfl⟩
  text := by
    unfold parameter readParameter
    simp only [List.append_assoc]

theorem writtenParameters (h : Named n s) (hmark : Letters mark) :
    List.Forall₂ (WrittenParameter s.table)
      (s.valueColumns.map fun c => readParameter mark s.table c.name)
      (s.valueColumns.map fun c => parameter mark s.table c.name) := by
  rw [List.forall₂_map_left_iff, List.forall₂_map_right_iff, List.forall₂_same]
  intro c hc
  have hname := h.valueColumns c hc
  exact writtenParameter ⟨List.append_ne_nil_of_right_ne_nil mark hname.1,
    hmark.append hname.letters⟩ hname.letters

/-- The procedures of a table are legible. -/
theorem legible_proceduresOf (h : Named n s) :
    List.Forall₂ (Legible s.table) (proceduresOf n s) (readParameters n s) := by
  obtain ⟨hcreate, hupdate, hdelete, hgetById, -⟩ := h.marks
  have hkey : ∀ {mark}, Letters mark → mark ++ s.key ≠ [] → WrittenParameter s.table
      (readParameter mark s.table s.key) (parameter mark s.table s.key) := fun hmark hne =>
    writtenParameter ⟨hne, hmark.append h.key⟩ h.key
  have hname : ∀ {t : Text}, IsName t → IsName (t ++ s.table) := fun ht =>
    ⟨List.append_ne_nil_of_left_ne_nil ht.1 _, ht.letters.append h.table.letters⟩
  refine .cons ?_ (.cons ?_ (.cons ?_ (.cons ?_ (.cons ?_ .nil))))
  · exact ⟨hname (t := "create_") (by decide), writtenParameters h hcreate, fun h => nomatch h⟩
  · exact ⟨hname (t := "update_") (by decide),
      .cons (hkey hupdate h.update) (writtenParameters h hupdate), fun h => nomatch h⟩
  · exact ⟨hname (t := "delete_") (by decide), .cons (hkey hdelete h.delete) .nil,
      fun h => nomatch h⟩
  · refine ⟨?_, .cons (hkey hgetById h.getById) .nil, fun h => nomatch h⟩
    have hgid := hname (t := "gid_") (by decide)
    exact ⟨List.append_ne_nil_of_left_ne_nil hgid.1 _, hgid.letters.append (by decide)⟩
  · exact ⟨hname (t := "get_all_") (by decide), .nil, fun _ => rfl⟩

/-- Inspecting undoes rendering. The procedures of a table are read from the specification of its
    package as they were written, whatever the names are. From the body they are read so if
    no name in a statement is `IS` or `AS`, and none of the procedures is named like the package. -/
theorem inspection_recovers_procedures (h : Named n s) :
    ofSpecification (ofSchema n s).declarations = readRoutines n s (·.declaration) ∧
      (Unambiguous s → (∀ p ∈ proceduresOf n s,
          (n.packageName s.table).map Char.toLower ≠ p.name.map Char.toLower) →
        ofBody (ofSchema n s).definitions = readRoutines n s (·.definition)) := by
  obtain ⟨-, -, -, -, hsuffix⟩ := h.marks
  have hname : IsName (n.packageName s.table) :=
    ⟨List.append_ne_nil_of_left_ne_nil h.table.1 _, h.table.letters.append hsuffix⟩
  have hlegible := legible_proceduresOf h
  refine ⟨ofSpecification_procedures hname h.table hlegible, fun hs hnames => ?_⟩
  exact ofBody_procedures hname h.table hs.table hlegible (quiet_proceduresOf h hs) hnames

/-- A table and a column with the names of keywords. -/
def keywordTable : Schema := ⟨"PROCEDURE", [⟨"END", true⟩, ⟨"CEDURE", false⟩], "END"⟩

/-- A parameter of this table is called `PROCEDURE`, and one is called `END`. -/
def keywordNaming : Naming := { create := "PRO", update := "" }

theorem inspection_recovers_keyword_procedures :
    Named keywordNaming keywordTable ∧ Unambiguous keywordTable ∧
      (∀ p ∈ proceduresOf keywordNaming keywordTable,
        (keywordNaming.packageName keywordTable.table).map Char.toLower ≠
          p.name.map Char.toLower) ∧
      ofSpecification (ofSchema keywordNaming keywordTable).declarations =
        readRoutines keywordNaming keywordTable (·.declaration) ∧
      ofBody (ofSchema keywordNaming keywordTable).definitions =
        readRoutines keywordNaming keywordTable (·.definition) := by
  have hnamed : Named keywordNaming keywordTable :=
    ⟨by decide, by decide, by decide, by decide, by decide, by decide, by decide⟩
  have hunambiguous : Unambiguous keywordTable := ⟨by decide, by decide, by decide⟩
  have hnames : ∀ p ∈ proceduresOf keywordNaming keywordTable,
      (keywordNaming.packageName keywordTable.table).map Char.toLower ≠
        p.name.map Char.toLower := by decide
  obtain ⟨hspecification, hbody⟩ := inspection_recovers_procedures hnamed
  exact ⟨hnamed, hunambiguous, hnames, hspecification, hbody hunambiguous hnames⟩

end Package

end TablePackage
