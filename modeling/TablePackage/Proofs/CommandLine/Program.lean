import TablePackage.CommandLine.Program
import TablePackage.Proofs.Repetition

/-!
# The ends of the program

A run of the program ends in one of two ways. It fails, for whatever reason: then nothing was
printed, and all files are as they were. Or it does what was asked for, and the only thing that
ever changes is then the file that a generation is about, which has a block more.

* `answer_cases`: what keeps both commands from being carried out;
* `preview_of_error`, `preview_of_ok`, `generate_of_error`, `generate_of_refused`,
  `generate_of_replaced`: each command on a file with a text, and `preview_of_no_text`,
  `generate_of_no_text` on any other one;
* `run_fails_cleanly`: each run of the program.
-/

namespace TablePackage

variable {files : Files} {path : Path} {range : LineRange} {f : OpenFile} {t : Text}

/-! ## Opening a file -/

namespace OpenFile

/-- What is opened is the file that was asked for. -/
theorem eq_of_opening? (h : opening? files path range = .ok (some f)) :
    f = ⟨files, path, range⟩ := by
  unfold opening? at h
  cases hhas : files.hasFile path with
  | error fault => rw [hhas] at h; cases h
  | ok b =>
    rw [hhas] at h
    cases b with
    | false => cases h
    | true => exact (Option.some.inj (Except.ok.inj h)).symm

/-- A file that can be read is opened. -/
theorem opening?_of_text (h : f.text = .ok t) : opening? f.files f.path f.lines = .ok (some f) := by
  obtain ⟨bytes, hread, -⟩ := text_eq_ok_iff.1 h
  have hlookup : f.files.lookup f.path = .ok (.file bytes) := by
    obtain ⟨l, hl, hnode⟩ := Files.read_eq_ok_iff.1 hread
    rw [Files.lookup, hl]
    simp only [bind, Except.bind, hnode]
    rfl
  rw [opening?, Files.hasFile, Files.find?, hlookup]
  rfl

end OpenFile

namespace CommandLine

variable {s : Setting} {r : Request} {c : Config} {log : List LogEntry → Text} {g : Generated}
  {report : Report} {code : Nat} {arguments : List Text}

/-! ## Failures -/

/-- The program has failed: it has printed nothing, and all files are as they were. -/
structure Report.Fails (files : Files) (code : Nat) (report : Report) : Prop where
  exit_eq : report.exit = code
  out_eq : report.out = []
  files_eq : report.files = files

theorem Report.fails_failed (files : Files) (code : Nat) (err : Text) :
    (failed files code err).Fails files code := ⟨rfl, rfl, rfl⟩

/-- A run that ends with a fault is told on the error output only. -/
theorem fails_reportRun {σ : Type} (log : List LogEntry → Text) (files : Files) (fault : Fault)
    (surface : σ) (entries : List LogEntry) :
    (reportRun log files (.close (.recording {}) (.error fault) surface entries)).Fails files 1 :=
  ⟨rfl, rfl, rfl⟩

/-! ## Commands -/

/-- The file that a request is about. -/
def Request.target (r : Request) (files : Files) : OpenFile := ⟨files, .ofText r.file, r.lines⟩

/-- What is made for a request, of the text of its file. -/
def Request.build (r : Request) (c : Config) (t : Text) : Outcome :=
  Generated.build (r.lines.select t) c.naming c.validation.requireKey

theorem selection_target (htext : (r.target files).text = .ok t) :
    (r.target files).selection = .ok (r.lines.select t) := (OpenFile.readable htext).selection_eq

/-- What is selected in a file without a text cannot be told. -/
theorem exists_selection_eq_error (h : ∀ t, (r.target files).text ≠ .ok t) :
    ∃ fault, (r.target files).selection = .error fault := by
  cases htext : (r.target files).text with
  | ok t => exact absurd htext (h t)
  | error fault => exact ⟨fault, by rw [OpenFile.selection, htext]; rfl⟩

/-- A preview of a file without a text fails. -/
theorem preview_of_no_text (h : ∀ t, (r.target files).text ≠ .ok t) :
    (preview c log files r).Fails files 1 := by
  obtain ⟨fault, hselection⟩ := exists_selection_eq_error h
  unfold preview
  dsimp only
  split
  · exact Report.fails_failed files 1 _
  · exact Report.fails_failed files 1 _
  · rename_i f hf
    obtain rfl : f = r.target files := OpenFile.eq_of_opening? hf
    rw [hselection]
    exact Report.fails_failed files 1 _

/-- A generation on a file without a text fails. -/
theorem generate_of_no_text (h : ∀ t, (r.target files).text ≠ .ok t) :
    (generate c log files r).Fails files 1 := by
  obtain ⟨fault, hselection⟩ := exists_selection_eq_error h
  unfold generate
  dsimp only
  split
  · exact Report.fails_failed files 1 _
  · exact ⟨rfl, rfl, rfl⟩
  · rename_i f hf
    obtain rfl : f = r.target files := OpenFile.eq_of_opening? hf
    rw [Run.generate_of_unreadable hselection]
    exact Report.fails_failed files 1 _

/-- The preview of a file with a text tells what is made of its selection. -/
theorem preview_of_text (htext : (r.target files).text = .ok t) :
    preview c log files r =
      let err := log (Generated.buildLog (r.lines.select t))
      match r.build c t with
      | .error fault => .failed files 1 (err ++ Report.errorLine fault.message)
      | .ok g =>
        ⟨0, g.package.declarations ++ "\n" ++ g.package.definitions ++
          (if r.summary then summary g.package.definitions else []), err, files⟩ := by
  have hopen := OpenFile.opening?_of_text htext
  have hselection := selection_target htext
  simp only [Request.target] at hopen hselection
  simp only [preview, hopen, hselection]
  rfl

/-- A preview fails if no package can be made. -/
theorem preview_of_error {fault : Fault} (htext : (r.target files).text = .ok t)
    (hbuild : r.build c t = .error fault) : (preview c log files r).Fails files 1 := by
  rw [preview_of_text htext, hbuild]
  exact Report.fails_failed files 1 _

/-- A preview prints the package. -/
theorem preview_of_ok (log : List LogEntry → Text) (htext : (r.target files).text = .ok t)
    (hbuild : r.build c t = .ok g) :
    (preview c log files r).exit = 0 ∧ (preview c log files r).files = files ∧
      (preview c log files r).out = g.package.declarations ++ "\n" ++ g.package.definitions ++
        if r.summary then summary g.package.definitions else [] := by
  rw [preview_of_text htext, hbuild]
  exact ⟨rfl, rfl, rfl⟩

/-- A generation on a file with a text reports how the command has ended. -/
theorem generate_of_run {run : Run OpenFile} (htext : (r.target files).text = .ok t)
    (hrun : Run.generate c (.recording {}) (r.target files) = .ok run) :
    generate c log files r = reportRun log run.surface.files run := by
  have hopen := OpenFile.opening?_of_text htext
  simp only [Request.target] at hopen hrun
  simp only [generate, hopen, hrun]

/-- A generation fails if no package can be made. -/
theorem generate_of_error {fault : Fault} (htext : (r.target files).text = .ok t)
    (hbuild : r.build c t = .error fault) : (generate c log files r).Fails files 1 := by
  rw [generate_of_run htext (Run.generate_of_fault (selection_target htext) hbuild)]
  exact fails_reportRun log files fault _ _

/-- A generation fails if the file is not replaced. -/
theorem generate_of_refused {entries : List LogEntry} (htext : (r.target files).text = .ok t)
    (hbuild : r.build c t = .ok g)
    (hreplace : Surface.replaceAll (g.expandIn t) (r.target files) = .error (.unchanged entries)) :
    (generate c log files r).Fails files 1 := by
  rw [generate_of_run htext
    (Run.generate_of_refusal (selection_target htext) htext hbuild hreplace)]
  exact fails_reportRun log files .documentUpdate _ _

/-- A generation puts the package behind the first occurrence of what is selected. -/
theorem generate_of_replaced (log : List LogEntry → Text)
    (htext : (r.target files).text = .ok t) (hbuild : r.build c t = .ok g)
    (hreplace : Surface.replaceAll (g.expandIn t) (r.target files) = .ok f) :
    (generate c log files r).exit = 0 ∧ ∃ u v, Text.FirstAt (r.lines.select t) t u v ∧
      Files.Overwritten files (.ofText r.file)
        (Utf8.encode (u ++ r.lines.select t ++ g.insertion ++ v))
        (generate c log files r).files := by
  rw [generate_of_run htext
    (Run.generate_of_replaced (selection_target htext) htext hbuild hreplace)]
  obtain ⟨u, v, hfirst⟩ := Text.exists_firstAt (r.lines.select_infix t)
  obtain ⟨files', rfl, hover⟩ := OpenFile.overwritten_of_replaceAll hreplace
  have hselection := Generated.selection_of_build hbuild
  rw [Generated.expandIn_eq (hselection.symm ▸ hfirst), hselection] at hover
  exact ⟨rfl, u, v, hfirst, hover⟩

/-- A preview fails, or it ends well and changes nothing. -/
theorem preview_cases (c : Config) (log : List LogEntry → Text) (files : Files) (r : Request) :
    (preview c log files r).Fails files 1 ∨
      (preview c log files r).exit = 0 ∧ (preview c log files r).files = files := by
  by_cases hnone : ∀ t, (r.target files).text ≠ .ok t
  · exact .inl (preview_of_no_text hnone)
  obtain ⟨t, htext⟩ := not_forall_not.1 hnone
  cases hbuild : r.build c t with
  | error fault => exact .inl (preview_of_error htext hbuild)
  | ok g =>
    obtain ⟨hexit, hfiles, -⟩ := preview_of_ok log htext hbuild
    exact .inr ⟨hexit, hfiles⟩

/-- A generation fails, or it ends well and the file has a package more, behind the first
    occurrence of what is selected. -/
theorem generate_cases (c : Config) (log : List LogEntry → Text) (files : Files) (r : Request) :
    (generate c log files r).Fails files 1 ∨
      ∃ t g u v, (r.target files).text = .ok t ∧ t = u ++ r.lines.select t ++ v ∧
        (generate c log files r).exit = 0 ∧ Files.Overwritten files (.ofText r.file)
          (Utf8.encode (u ++ r.lines.select t ++ Generated.insertion g ++ v))
          (generate c log files r).files := by
  by_cases hnone : ∀ t, (r.target files).text ≠ .ok t
  · exact .inl (generate_of_no_text hnone)
  obtain ⟨t, htext⟩ := not_forall_not.1 hnone
  cases hbuild : r.build c t with
  | error fault => exact .inl (generate_of_error htext hbuild)
  | ok g =>
    rcases (OpenFile.readable htext).replaceAll_cases (g.expandIn t) with
      ⟨f, hreplace, -⟩ | ⟨entries, hreplace⟩
    · obtain ⟨hexit, u, v, hfirst, hover⟩ := generate_of_replaced log htext hbuild hreplace
      exact .inr ⟨t, g, u, v, htext, hfirst.eq_append, hexit, hover⟩
    · exact .inl (generate_of_refused htext hbuild hreplace)

/-! ## Requests -/

/-- Carries out the command of a request. -/
def perform (c : Config) (log : List LogEntry → Text) (files : Files) (r : Request) : Report :=
  match r.command with
  | .generate => generate c log files r
  | .preview => preview c log files r

theorem perform_of_preview (h : r.command = .preview) :
    perform c log files r = preview c log files r := by
  rw [perform, h]

/-- A request is carried out if there is a configuration with a format that can be used. -/
theorem answer_eq_perform (hs : s.interrupted = false)
    (hload : Config.load s.files s.env r.config = .ok c)
    (husable : LogFormat.isUsable c.logging.format = true) :
    answer s r =
      perform c (LogFormat.written c.logging.format s.time c.logging.level) s.files r := by
  unfold answer
  rw [hs, hload]
  simp only [husable]
  rfl

/-- Requests with the same source of the configuration all fail in one way, or they are all carried
    out, with one configuration and one log. -/
theorem answer_cases (s : Setting) (source : Option Text) :
    (∃ code, code ≠ 0 ∧ ∀ r : Request, r.config = source → (answer s r).Fails s.files code) ∨
      ∃ c log, Config.load s.files s.env source = .ok c ∧
        ∀ r : Request, r.config = source → answer s r = perform c log s.files r := by
  cases hs : s.interrupted with
  | true =>
    refine .inl ⟨130, by decide, fun r _ => ?_⟩
    rw [answer, hs]
    exact Report.fails_failed ..
  | false =>
    cases hload : Config.load s.files s.env source with
    | error fault =>
      refine .inl ⟨1, by decide, fun r hr => ?_⟩
      rw [answer, hs, hr, hload]
      exact Report.fails_failed ..
    | ok c =>
      cases husable : LogFormat.isUsable c.logging.format with
      | true => exact .inr ⟨c, _, rfl, fun r hr => answer_eq_perform hs (hr ▸ hload) husable⟩
      | false =>
        refine .inl ⟨1, by decide, fun r hr => ?_⟩
        rw [answer, hs, hr, hload]
        simp only [husable]
        exact Report.fails_failed ..

/-- A generation that ends well puts a block of bytes into its file. -/
theorem inserts_of_generate (hfails : ¬(generate c log files r).Fails files 1) :
    ∃ l a block b, files.resolve (.ofText r.file) = .ok l ∧
      files.node? l = some (.file (a ++ b)) ∧ block ≠ [] ∧
      ∀ k, (generate c log files r).files.node? k =
        if k = l then some (.file (a ++ block ++ b)) else files.node? k := by
  obtain ⟨t, g, u, v, htext, ht, -, hover⟩ := (generate_cases c log files r).resolve_left hfails
  obtain ⟨bytes, hread, hdecode⟩ := OpenFile.text_eq_ok_iff.1 htext
  obtain ⟨l, hl, hnode⟩ := Files.read_eq_ok_iff.1 hread
  obtain ⟨-, l', -, hl', -, hnodes⟩ := hover
  obtain rfl : l = l' := Except.ok.inj (hl.symm.trans hl')
  rw [← Utf8.encode_of_decode hdecode, ht, Utf8.encode_append] at hnode
  refine ⟨l, _, Utf8.encode g.insertion, _, hl, hnode,
    Utf8.encode_ne_nil g.insertion_ne_nil, fun k => ?_⟩
  rw [hnodes, Utf8.encode_append, Utf8.encode_append]

/-! ## Arguments -/

/-- The program fails cleanly, whatever its arguments are and what it finds. If its exit code is
    not zero, all files are as they were and nothing was printed; if it is not asked for a
    generation, all files are as they were; and a generation that ends well changes one file
    only, the one that it is asked for, which has the bytes that it had and a block between two of
    them. -/
theorem run_fails_cleanly (s : Setting) (arguments : List Text) :
    let report := run s arguments
    (report.exit ≠ 0 → report.files = s.files ∧ report.out = []) ∧
    ((∀ r, Request.ofArguments arguments = .ok r → r.command = .preview) →
      report.files = s.files) ∧
    ∀ r, Request.ofArguments arguments = .ok r → r.command = .generate → report.exit = 0 →
      ∃ l a block b, s.files.resolve (.ofText r.file) = .ok l ∧
        s.files.node? l = some (.file (a ++ b)) ∧ block ≠ [] ∧
        ∀ k, report.files.node? k =
          if k = l then some (.file (a ++ block ++ b)) else s.files.node? k := by
  dsimp only
  unfold run
  cases harguments : Request.ofArguments arguments with
  | error stop =>
    cases stop with
    | help scope => exact ⟨fun h => absurd rfl h, fun _ => rfl, nofun⟩
    | refused scope fault => exact ⟨fun _ => ⟨rfl, rfl⟩, fun _ => rfl, nofun⟩
  | ok r =>
    dsimp only
    obtain ⟨code, hcode, hfails⟩ | ⟨c, log, -, hperform⟩ := answer_cases s r.config
    · obtain ⟨hexit, hout, hfiles⟩ := hfails r rfl
      refine ⟨fun _ => ⟨hfiles, hout⟩, fun _ => hfiles, fun q hq _ hzero => ?_⟩
      obtain rfl : r = q := Except.ok.inj hq
      exact absurd (hexit.symm.trans hzero) hcode
    rw [hperform r rfl, perform]
    cases hcommand : r.command with
    | preview =>
      dsimp only
      refine ⟨fun h => ?_, fun _ => ?_, fun q hq hgenerate => ?_⟩
      · rcases preview_cases c log s.files r with hfails | ⟨hzero, -⟩
        · exact ⟨hfails.files_eq, hfails.out_eq⟩
        · exact absurd hzero h
      · exact (preview_cases c log s.files r).elim (·.files_eq) (·.2)
      · obtain rfl : r = q := Except.ok.inj hq
        rw [hcommand] at hgenerate
        cases hgenerate
    | generate =>
      dsimp only
      refine ⟨fun h => ?_, fun h => ?_, fun q hq _ hzero => ?_⟩
      · rcases generate_cases c log s.files r with hfails | ⟨_, _, _, _, -, -, hzero, -⟩
        · exact ⟨hfails.files_eq, hfails.out_eq⟩
        · exact absurd hzero h
      · have hpreview := h r rfl
        rw [hcommand] at hpreview
        cases hpreview
      · obtain rfl : r = q := Except.ok.inj hq
        refine inserts_of_generate fun hfails => ?_
        rw [hfails.exit_eq] at hzero
        cases hzero

/-! ## A single file -/

/-- What the program finds where there is one file, `f`, and nothing else. -/
def oneFile (t : Text) : Setting := { files := .single ['f'] (Utf8.encode t) }

theorem text_target_oneFile (hfile : r.file = "f") : (r.target (oneFile t).files).text = .ok t := by
  refine OpenFile.text_eq_ok_iff.2 ⟨Utf8.encode t, ?_, Utf8.decode_encode t⟩
  rw [Request.target, hfile]
  rfl

/-- The configuration is the default one where there is one file. -/
theorem answer_oneFile (hconfig : r.config = none) : ∃ log, answer (oneFile t) r =
    perform {} log (oneFile t).files r := by
  have hload : Config.load (oneFile t).files (oneFile t).env r.config = .ok {} := by
    rw [hconfig]
    rfl
  exact ⟨_, answer_eq_perform rfl hload (by decide +kernel)⟩

/-- A package can be made of a small table. -/
theorem Request.exists_build_smallTable (hlines : r.lines = {}) :
    ∃ g, r.build {} (smallTable []) = .ok g := by
  rw [Request.build, hlines, LineRange.select_whole]
  exact TablePackage.exists_build_smallTable List.not_mem_nil

/-- A package is put into the only file, which has nothing but the table. -/
theorem run_fails_cleanly_table :
    let s := oneFile (smallTable [])
    let r : Request := { command := .generate, file := "f" }
    let report := run s ["generate", "f"]
    Request.ofArguments ["generate", "f"] = .ok r ∧ report.exit = 0 ∧
      ∃ l a block b, s.files.resolve (.ofText r.file) = .ok l ∧
        s.files.node? l = some (.file (a ++ b)) ∧ block ≠ [] ∧
        ∀ k, report.files.node? k =
          if k = l then some (.file (a ++ block ++ b)) else s.files.node? k := by
  intro s r report
  have harguments : Request.ofArguments ["generate", "f"] = .ok r := by rfl
  have hexit : report.exit = 0 := by
    have htext : (r.target s.files).text = .ok (smallTable []) := text_target_oneFile rfl
    obtain ⟨g, hbuild⟩ := r.exists_build_smallTable rfl
    obtain ⟨files, hreplace, -⟩ :=
      OpenFile.exists_replaceAll_eq_ok htext (by decide) (g.expandIn (smallTable []))
    obtain ⟨log, hanswer⟩ := answer_oneFile (t := smallTable []) (r := r) rfl
    have hreport : report = perform {} log s.files r := by
      change run s ["generate", "f"] = _
      rw [run, harguments, ← hanswer]
    rw [hreport, perform]
    exact (generate_of_replaced log htext hbuild hreplace).1
  obtain ⟨-, -, hinserts⟩ := run_fails_cleanly s ["generate", "f"]
  exact ⟨harguments, hexit, hinserts r harguments rfl hexit⟩

end CommandLine

end TablePackage
