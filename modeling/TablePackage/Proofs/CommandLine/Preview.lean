import TablePackage.Proofs.CommandLine.Arguments
import TablePackage.Proofs.CommandLine.Program

/-!
# Previews and generations

Both commands open the file, look at what is selected, and make a package of it, each in its own
way: a preview tells a fault itself, and a generation leaves that to a notifier. They fail alike
all the same, and what a preview prints is what a generation puts into the file.

* `preview_agrees_generate`: the two commands for one request;
* `preview_shows_generate`: two runs of the program.
-/

namespace TablePackage.CommandLine

variable {files : Files} {c : Config} {r : Request} {shown written : Report}

/-- Of the same package, one report shows the two texts, and what the other one tells of has
    written them into the file of the request: behind the first occurrence of what is selected,
    each with an empty line before it. -/
def ShowsWritten (files : Files) (c : Config) (r : Request) (shown written : Report) : Prop :=
  ∃ t u v g, (r.target files).text = .ok t ∧ r.build c t = .ok g ∧
    Text.FirstAt (r.lines.select t) t u v ∧
    let declarations := g.package.declarations
    let definitions := g.package.definitions
    shown.out = declarations ++ "\n" ++ definitions ∧ shown.files = files ∧
      Files.Overwritten files (.ofText r.file)
        (Utf8.encode (u ++ r.lines.select t ++
          ("\n\n" ++ declarations ++ "\n\n" ++ definitions) ++ v)) written.files

/-- Two reports have the same exit code, and if it is zero, the one shows what the other has
    written. -/
def Agree (files : Files) (c : Config) (r : Request) (shown written : Report) : Prop :=
  shown.exit = written.exit ∧ (shown.exit = 0 → ShowsWritten files c r shown written)

/-- Commands that fail alike agree. -/
theorem agree_of_fails {code : Nat} (hcode : code ≠ 0) (hshown : shown.Fails files code)
    (hwritten : written.Fails files code) : Agree files c r shown written :=
  ⟨hshown.exit_eq.trans hwritten.exit_eq.symm, fun h => absurd (hshown.exit_eq.symm.trans h) hcode⟩

/-- A preview without a summary and a generation agree, if the file can be written over. -/
theorem preview_agrees_generate (c : Config) (log : List LogEntry → Text)
    (hsummary : r.summary = false) (hwritable : files.Writable (.ofText r.file)) :
    Agree files c r (preview c log files r) (generate c log files r) := by
  by_cases hnone : ∀ t, (r.target files).text ≠ .ok t
  · exact agree_of_fails (by decide) (preview_of_no_text hnone) (generate_of_no_text hnone)
  obtain ⟨t, htext⟩ := not_forall_not.1 hnone
  cases hbuild : r.build c t with
  | error fault =>
    exact agree_of_fails (by decide) (preview_of_error htext hbuild)
      (generate_of_error htext hbuild)
  | ok g =>
    obtain ⟨files', hreplace, -⟩ :=
      OpenFile.exists_replaceAll_of_writable htext hwritable (g.expandIn t)
    obtain ⟨hexit, u, v, hfirst, hover⟩ := generate_of_replaced log htext hbuild hreplace
    obtain ⟨hexit', hfiles, hout⟩ := preview_of_ok log htext hbuild
    rw [hsummary, if_neg Bool.false_ne_true, List.append_nil] at hout
    exact ⟨hexit'.trans hexit.symm, fun _ =>
      ⟨t, u, v, g, htext, hbuild, hfirst, hout, hfiles, hover⟩⟩

/-- A preview shows what a generation writes. With the same arguments, none of which asks for help
    or a summary, both have the same exit code, if the file can be written over. If the code is
    zero, the preview prints the two texts of a package, and the generation puts the same two texts
    into the file, behind the first occurrence of what is selected. -/
theorem preview_shows_generate (s : Setting) (rest : List Text)
    (hplain : ∀ ws, words (.command .preview) rest = .ok ws → ∀ w ∈ ws, w.2.isFlag = false)
    (hwritable : ∀ r, Request.ofArguments ("generate" :: rest) = .ok r →
      s.files.Writable (.ofText r.file)) :
    let shown := run s ("preview" :: rest)
    let written := run s ("generate" :: rest)
    shown.exit = written.exit ∧ (shown.exit = 0 →
      ∃ r c, Request.ofArguments ("generate" :: rest) = .ok r ∧
        Config.load s.files s.env r.config = .ok c ∧ ShowsWritten s.files c r shown written) := by
  intro shown written
  have hshown : shown = run s (Command.preview.name :: rest) := rfl
  have hwritten : written = run s (Command.generate.name :: rest) := rfl
  rcases ofArguments_cases hplain with ⟨file, lines, config, harguments⟩ | hrefused
  · have hanswer : ∀ command : Command, run s (command.name :: rest) =
        answer s ⟨command, file, lines, config, false⟩ := fun command => by
      rw [run, harguments]
    rw [hshown, hwritten, hanswer, hanswer]
    rcases answer_cases s config with ⟨code, hcode, hfails⟩ | ⟨c, log, hload, hperform⟩
    · have hexit := fun command => (hfails ⟨command, file, lines, config, false⟩ rfl).exit_eq
      rw [hexit, hexit]
      exact ⟨rfl, fun h => absurd h hcode⟩
    · rw [hperform _ rfl, hperform _ rfl]
      obtain ⟨hexit, hshows⟩ := preview_agrees_generate
        (r := ⟨.generate, file, lines, config, false⟩) c log rfl
        (hwritable _ (harguments .generate))
      exact ⟨hexit, fun h => ⟨_, c, harguments .generate, hload, hshows h⟩⟩
  · have hexit : ∀ command : Command, (run s (command.name :: rest)).exit = 2 := fun command => by
      obtain ⟨scope, fault, h⟩ := hrefused command
      rw [run, h]
      rfl
    rw [hshown, hwritten, hexit, hexit]
    exact ⟨rfl, fun h => absurd h (by decide)⟩

/-- The package of a table is shown, and then it is written behind the table. -/
theorem preview_shows_generate_table :
    let S := smallTable []
    let s := oneFile S
    let rest : List Text := ["f"]
    let r : Request := { command := .generate, file := "f" }
    let shown := run s ("preview" :: rest)
    let written := run s ("generate" :: rest)
    (∀ ws, words (.command .preview) rest = .ok ws → ∀ w ∈ ws, w.2.isFlag = false) ∧
      Request.ofArguments ("generate" :: rest) = .ok r ∧ s.files.Writable (.ofText r.file) ∧
      shown.exit = 0 ∧ written.exit = 0 ∧ ShowsWritten s.files {} r shown written := by
  intro S s rest r shown written
  have hplain : ∀ ws, words (.command .preview) rest = .ok ws → ∀ w ∈ ws, w.2.isFlag = false := by
    have hwords : words (.command .preview) rest = .ok [("f", .operand)] := rfl
    intro ws hws
    obtain rfl := Except.ok.inj (hwords.symm.trans hws)
    exact List.forall_mem_singleton.2 rfl
  have harguments : Request.ofArguments ("generate" :: rest) = .ok r := rfl
  have hwritable : s.files.Writable (.ofText r.file) := Files.writable_of_takesDraft (by decide)
  have hexit : shown.exit = 0 := by
    let q : Request := { command := .preview, file := "f" }
    have hq : Request.ofArguments ("preview" :: rest) = .ok q := rfl
    obtain ⟨g, hbuild⟩ := q.exists_build_smallTable rfl
    obtain ⟨log, hanswer⟩ := answer_oneFile (t := S) (r := q) rfl
    have hshown : shown = perform {} log s.files q := by
      change run s ("preview" :: rest) = _
      rw [run, hq, ← hanswer]
    rw [hshown, perform]
    exact (preview_of_ok log (text_target_oneFile rfl) hbuild).1
  obtain ⟨hsame, hshows⟩ := preview_shows_generate s rest hplain fun q hq => by
    obtain rfl := Except.ok.inj (harguments.symm.trans hq)
    exact hwritable
  obtain ⟨q, c, hq, hload, h⟩ := hshows hexit
  obtain rfl := Except.ok.inj (harguments.symm.trans hq)
  have hload' : Config.load s.files s.env r.config = .ok {} := rfl
  obtain rfl := Except.ok.inj (hload'.symm.trans hload)
  exact ⟨hplain, harguments, hwritable, hexit, hsame ▸ hexit, h⟩

end TablePackage.CommandLine
