import TablePackage.Proofs.CommandLine.Program
import TablePackage.Proofs.Names
import TablePackage.Proofs.Routine.Inspection

/-!
# Summaries

A preview may list the procedures of the package. They are not those that the package was made of:
they are read back from its body, which is taken to end at the first `END` with the name of the
package. So the list stops behind the first procedure that is named like the package, and it is
complete if there is none, or only the last one.

* `summary_ofSchema`: the summary of the package of a table;
* `preview_lists_procedures`: each preview with a summary;
* `preview_lists_one_procedure`, `not_lists_all_procedures`: a package that is named like its first
  procedure.
-/

namespace TablePackage

open Ascii Routine

/-! ## Signatures -/

/-- A procedure as it is listed: its name, and those of its parameters. -/
structure Signature where
  name : Text
  parameters : List Text
  deriving DecidableEq

/-- The signature of a procedure that was read. -/
def Routine.signature (r : Routine) : Signature := ⟨r.name, r.parameters.map (·.name)⟩

namespace Signature

/-- A signature in one line. -/
def line (x : Signature) : Text := "  " ++ (x.name ++ "(" ++ Text.join ", " x.parameters ++ ")")

/-- What is printed about a list of procedures. -/
def listing (xs : List Signature) : Text :=
  "\nProcedures (" ++ Text.ofNat xs.length ++ "):\n" ++ Text.lines (xs.map line)

/-- The signatures of the procedures of a table, in the order of the package. -/
def ofSchema (n : Naming) (s : Schema) : List Signature :=
  let values (mark : Text) := s.valueColumns.map (mark ++ ·.name)
  [⟨"create_" ++ s.table, values n.create⟩,
    ⟨"update_" ++ s.table, (n.update ++ s.key) :: values n.update⟩,
    ⟨"delete_" ++ s.table, [n.delete ++ s.key]⟩,
    ⟨"gid_" ++ s.table ++ "_by_id", [n.getById ++ s.key]⟩,
    ⟨"get_all_" ++ s.table, []⟩]

/-- The signatures up to and including the first one that has the name of the package `n`. -/
def upTo (n : Text) : List Signature → List Signature
  | [] => []
  | x :: xs => if SameName n x.name then [x] else x :: upTo n xs

variable {n : Text} {xs : List Signature}

/-- The list is complete if no signature but the last one has the name of the package. -/
theorem upTo_eq_self_iff : upTo n xs = xs ↔ ∀ x ∈ xs.dropLast, ¬SameName n x.name := by
  induction xs with
  | nil => exact iff_of_true rfl (List.forall_mem_nil _)
  | cons x xs ih =>
    rw [upTo]
    by_cases hx : SameName n x.name
    · rw [if_pos hx]
      cases xs with
      | nil => exact iff_of_true rfl (List.forall_mem_nil _)
      | cons y xs => exact iff_of_false (by simp) fun h => h x List.mem_cons_self hx
    · rw [if_neg hx, List.cons_inj_right, ih]
      cases xs with
      | nil => exact Iff.rfl
      | cons y xs => rw [List.dropLast_cons_cons, List.forall_mem_cons, and_iff_right hx]

end Signature

/-! ## Reading signatures -/

section

variable {n : Naming} {s : Schema}

/-- A summary lists the procedures that are read from a body. -/
theorem summary_eq_listing (t : Text) :
    CommandLine.summary t = Signature.listing ((ofBody t).map signature) := by
  unfold CommandLine.summary Signature.listing
  rw [List.map_map, List.length_map]
  rfl

/-- The signatures of the procedures that are read from a body. -/
theorem map_signature_bodyRoutines (n : Text) (ps : List Procedure) (qss : List (List Parameter)) :
    (bodyRoutines n ps qss).map signature =
      Signature.upTo n (List.zipWith (fun p qs => ⟨p.name, qs.map (·.name)⟩) ps qss) := by
  induction ps generalizing qss with
  | nil => rfl
  | cons p ps ih =>
    cases qss with
    | nil => rfl
    | cons qs qss =>
      rw [bodyRoutines, List.zipWith_cons_cons, Signature.upTo]
      split
      · rfl
      · rw [List.map_cons, ih]
        rfl

theorem zipWith_proceduresOf (n : Naming) (s : Schema) :
    List.zipWith (fun p qs => Signature.mk p.name (qs.map (·.name))) (Package.proceduresOf n s)
      (Package.readParameters n s) = Signature.ofSchema n s := by
  have hvalues : ∀ mark : Text, (s.valueColumns.map fun c =>
      Package.readParameter mark s.table c.name).map (·.name) =
        s.valueColumns.map (mark ++ ·.name) := fun mark => by
    rw [List.map_map]
    rfl
  simp only [Package.proceduresOf, Package.readParameters, Signature.ofSchema,
    List.zipWith_cons_cons, List.zipWith_nil_left, List.map_cons, List.map_nil, hvalues]
  rfl

/-- The summary of the package of a table, if no name in a statement is `IS` or `AS`. -/
theorem summary_ofSchema (h : Named n s) (hs : Unambiguous s) :
    CommandLine.summary (Package.ofSchema n s).definitions =
      Signature.listing (Signature.upTo (n.packageName s.table) (Signature.ofSchema n s)) := by
  obtain ⟨-, -, -, -, hsuffix⟩ := h.marks
  have hname : IsName (n.packageName s.table) :=
    ⟨List.append_ne_nil_of_left_ne_nil h.table.1 _, h.table.letters.append hsuffix⟩
  have hbody : ofBody (Package.ofSchema n s).definitions = _ :=
    ofBody_definitions hname h.table hs.table (Package.legible_proceduresOf h)
      (quiet_proceduresOf h hs)
  rw [summary_eq_listing, hbody, map_signature_bodyRoutines, zipWith_proceduresOf]

end

/-! ## Previews with a summary -/

namespace CommandLine

variable {s : Setting} {r : Request} {c : Config} {arguments : List Text}

/-- The program is asked for a preview with a summary, under a configuration that requires a key,
    and it does what it is asked for. -/
structure Summarizes (s : Setting) (arguments : List Text) (r : Request) (c : Config) : Prop where
  request : Request.ofArguments arguments = .ok r
  command : r.command = .preview
  summary : r.summary = true
  load : Config.load s.files s.env r.config = .ok c
  requireKey : c.validation.requireKey = true
  exit_eq : (run s arguments).exit = 0

/-- A preview that ends well prints the package and its summary. -/
theorem Summarizes.exists_out (h : Summarizes s arguments r c) :
    ∃ t g, (r.target s.files).text = .ok t ∧ r.build c t = .ok g ∧
      (run s arguments).out = g.package.declarations ++ "\n" ++ g.package.definitions ++
        CommandLine.summary g.package.definitions := by
  have hrun : run s arguments = answer s r := by rw [run, h.request]
  have hexit := h.exit_eq
  rw [hrun] at hexit ⊢
  rcases answer_cases s r.config with ⟨code, hcode, hfails⟩ | ⟨c', log, hload, hperform⟩
  · exact absurd ((hfails r rfl).exit_eq.symm.trans hexit) hcode
  obtain rfl : c = c' := Except.ok.inj (h.load.symm.trans hload)
  rw [hperform r rfl, perform_of_preview h.command] at hexit ⊢
  by_cases hnone : ∀ t, (r.target s.files).text ≠ .ok t
  · cases (preview_of_no_text hnone).exit_eq.symm.trans hexit
  obtain ⟨t, htext⟩ := not_forall_not.1 hnone
  cases hbuild : r.build c t with
  | error fault => cases (preview_of_error htext hbuild).exit_eq.symm.trans hexit
  | ok g =>
    obtain ⟨-, -, hout⟩ := preview_of_ok log htext hbuild
    rw [h.summary, if_pos rfl] at hout
    exact ⟨t, g, htext, hbuild, hout⟩

/-- A preview with a summary lists the procedures of the table that is selected, in their order and
    with their parameters, up to and including the first one that is named like the package. So
    the list is complete if none of them but the last one is named so. No part of an identifier
    may have a line feed, and no name in a statement may be `IS` or `AS`. -/
theorem preview_lists_procedures (h : Summarizes s arguments r c)
    (hfragments : ∀ t ∈ c.naming.fragments, '\n' ∉ t) :
    ∃ t, (r.target s.files).text = .ok t ∧
      let table := Schema.ofText (r.lines.select t)
      let package := Package.ofSchema c.naming table
      let all := Signature.ofSchema c.naming table
      (Unambiguous table → (run s arguments).out = package.declarations ++ "\n" ++
        package.definitions ++ Signature.listing (Signature.upTo package.name all)) ∧
      (Signature.upTo package.name all = all ↔
        ∀ x ∈ all.dropLast, ¬SameName package.name x.name) := by
  obtain ⟨t, g, htext, hbuild, hout⟩ := h.exists_out
  have hletters : ∀ t ∈ c.naming.fragments, Letters t := fun t ht =>
    Value.letters_of_isFragment (Config.isFragment_of_load h.load t ht) (hfragments t ht)
  rw [Request.build, h.requireKey] at hbuild
  have hnamed := named_of_build hbuild hletters
  obtain ⟨-, -, rfl⟩ := Generated.build_eq_ok_iff.1 hbuild
  refine ⟨t, htext, fun hs => ?_, Signature.upTo_eq_self_iff⟩
  rw [hout]
  exact congrArg (_ ++ ·) (summary_ofSchema hnamed hs)

/-! ## A package that is named like a procedure -/

/-- A table that is called `create_`. -/
def createTable : Text :=
  "table_name(\"create_\");\ntable_attr(\"ID\").primarykey;\ntable_attr(\"NAME\");\n"

/-- The columns of this table. -/
def createSchema : Schema := ⟨"create_", [⟨"ID", true⟩, ⟨"NAME", false⟩], "ID"⟩

/-- By this configuration, its package is called `create_create_`, like one of the procedures. -/
def createConfig : Config := { naming := { packageSuffix := "create_" } }

/-- What the program finds where there are the table and the configuration. -/
def createSetting : Setting where
  files.entries := [(["t.tbl"], .file (Utf8.encode createTable)),
    (["c.yaml"], .file (Utf8.encode "naming:\n  package_suffix: create_\n"))]

/-- The preview of the table. -/
def createRequest : Request where
  command := .preview
  file := "t.tbl"
  config := some "c.yaml"
  summary := true

/-- The arguments of the preview. -/
def createArguments : List Text := ["preview", "t.tbl", "--summary", "--config", "c.yaml"]

/-- The whole file is selected, and this is read of it. -/
theorem select_createTable :
    Schema.ofText (createRequest.lines.select createTable) = createSchema := by
  have htable : Schema.ofText createTable = createSchema := by decide +kernel
  rw [createRequest, LineRange.select_whole, htable]

theorem text_createSetting : (createRequest.target createSetting.files).text = .ok createTable :=
  OpenFile.text_eq_ok_iff.2 ⟨Utf8.encode createTable, rfl, Utf8.decode_encode createTable⟩

theorem load_createSetting :
    Config.load createSetting.files createSetting.env createRequest.config = .ok createConfig := by
  have hsome : (Config.load createSetting.files createSetting.env createRequest.config).toOption =
      some createConfig := by decide +kernel
  cases hload : Config.load createSetting.files createSetting.env createRequest.config with
  | error fault => rw [hload] at hsome; cases hsome
  | ok c => rw [hload] at hsome; rw [Option.some.inj hsome]

theorem exists_build_createTable : ∃ g, createRequest.build createConfig createTable = .ok g :=
  ⟨_, Generated.build_eq_ok_iff.2
    ⟨by decide +kernel, by rw [select_createTable]; decide, rfl⟩⟩

/-- The preview ends well. -/
theorem summarizes_createTable :
    Summarizes createSetting createArguments createRequest createConfig := by
  have hrequest : Request.ofArguments createArguments = .ok createRequest := by rfl
  refine ⟨hrequest, rfl, rfl, load_createSetting, rfl, ?_⟩
  obtain ⟨g, hbuild⟩ := exists_build_createTable
  have husable : LogFormat.isUsable createConfig.logging.format = true := by decide +kernel
  rw [run, hrequest]
  dsimp only
  rw [answer_eq_perform rfl load_createSetting husable, perform_of_preview rfl]
  exact (preview_of_ok _ text_createSetting hbuild).1

theorem unambiguous_createSchema : Unambiguous createSchema :=
  ⟨by decide, by decide, by decide⟩

/-- Only the first procedure of the package is listed. -/
theorem preview_lists_one_procedure :
    let package := Package.ofSchema createConfig.naming createSchema
    Summarizes createSetting createArguments createRequest createConfig ∧
      (∀ t ∈ createConfig.naming.fragments, '\n' ∉ t) ∧ Unambiguous createSchema ∧
      (run createSetting createArguments).out = package.declarations ++ "\n" ++
        package.definitions ++ "\nProcedures (1):\n  create_create_(c_NAME)\n" := by
  intro package
  have hfragments : ∀ t ∈ createConfig.naming.fragments, '\n' ∉ t := by decide
  obtain ⟨t, htext, hout, -⟩ := preview_lists_procedures summarizes_createTable hfragments
  obtain rfl : createTable = t := Except.ok.inj (text_createSetting.symm.trans htext)
  rw [select_createTable] at hout
  refine ⟨summarizes_createTable, hfragments, unambiguous_createSchema, ?_⟩
  have hlisting : Signature.listing (Signature.upTo (Package.ofSchema createConfig.naming
      createSchema).name (Signature.ofSchema createConfig.naming createSchema)) =
        "\nProcedures (1):\n  create_create_(c_NAME)\n" := by decide
  rw [hout unambiguous_createSchema, hlisting]

/-- Not every summary lists all procedures. -/
theorem not_lists_all_procedures :
    ¬∀ s arguments r c, Summarizes s arguments r c → ∃ t, (r.target s.files).text = .ok t ∧
      let table := Schema.ofText (r.lines.select t)
      let package := Package.ofSchema c.naming table
      (run s arguments).out = package.declarations ++ "\n" ++ package.definitions ++
        Signature.listing (Signature.ofSchema c.naming table) := by
  intro hall
  obtain ⟨t, htext, hout⟩ := hall _ _ _ _ summarizes_createTable
  obtain ⟨t', g, htext', hbuild, hout'⟩ := summarizes_createTable.exists_out
  obtain rfl : createTable = t := Except.ok.inj (text_createSetting.symm.trans htext)
  obtain rfl : createTable = t' := Except.ok.inj (text_createSetting.symm.trans htext')
  obtain ⟨-, -, rfl⟩ := Generated.build_eq_ok_iff.1 hbuild
  have hnamed : Named createConfig.naming createSchema :=
    ⟨by decide, by decide, by decide, by decide, by decide, by decide, by decide⟩
  rw [select_createTable] at hout hout'
  have hlisting := List.append_cancel_left (hout.symm.trans hout')
  rw [Generated.ofSchema, summary_ofSchema hnamed unambiguous_createSchema] at hlisting
  revert hlisting
  decide

end CommandLine

end TablePackage
