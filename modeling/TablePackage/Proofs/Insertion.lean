import TablePackage.Proofs.Files
import TablePackage.Proofs.Lines
import TablePackage.Proofs.Text.Occurrence
import TablePackage.Proofs.Text.Utf8
import TablePackage.Session

/-!
# Insertions

What a run of the command does to the document it works on. The document is rewritten by a
search for the selected text, not at the place where it was selected; but what is selected is
always a piece of the document (`Surface.Readable`), so it is found, and the package is
put behind its first occurrence with nothing else changed.

A run ends in one of three ways, which `Reply.Inserts`, `Reply.Declines` and a reply that says
why the document cannot be read stand for.

* `Session.generate_of_readable`: on a document that can be read, a run inserts or declines;
* `Run.generate_of_unreadable`: on one that cannot, nothing is shown and nothing changes.
-/

namespace TablePackage

/-! ## What is generated -/

namespace Generated

variable {selection : Text} {n : Naming} {requireKey : Bool} {g : Generated}

/-- A package is made if the selection opens with a table and nothing is wrong with its schema. -/
theorem build_eq_ok_iff :
    build selection n requireKey = .ok g ↔ Declaration.opensWithTable selection = true ∧
      (Schema.ofText selection).fault? requireKey = none ∧
      g = ofSchema selection n (Schema.ofText selection) := by
  unfold build
  cases hopens : Declaration.opensWithTable selection with
  | false => simp
  | true =>
    rw [if_neg (show ¬(!true) = true from Bool.false_ne_true)]
    cases hfault : (Schema.ofText selection).fault? requireKey with
    | none => simp [hfault, eq_comm]
    | some fault => simp [hfault]

/-- A package is made for the selection it is asked for. -/
theorem selection_of_build (h : build selection n requireKey = .ok g) :
    g.selection = selection := by
  obtain ⟨_, _, rfl⟩ := build_eq_ok_iff.1 h
  rfl

/-- No package is made for an empty selection. -/
theorem ne_nil_of_build (h : build selection n requireKey = .ok g) : selection ≠ [] := by
  rintro rfl
  cases (build_eq_ok_iff.1 h).1

/-- The package is put behind the first occurrence of the selection. -/
theorem expandIn_eq {t u v : Text} (h : Text.FirstAt g.selection t u v) :
    g.expandIn t = u ++ g.selection ++ g.insertion ++ v := by
  rw [expandIn, h.replaceFirst, expanded, ← List.append_assoc]

/-- The insertion is never empty. -/
theorem insertion_ne_nil (g : Generated) : g.insertion ≠ [] := List.cons_ne_nil '\n' _

end Generated

/-! ## Surfaces that can be read -/

/-- A surface with the document `t` of which `S` is selected. It can be replaced, or it stays as
    it is and the log says why. -/
structure Surface.Readable {σ : Type} [Surface σ] (s : σ) (t S : Text) : Prop where
  selection_eq : Surface.selection s = .ok S
  text_eq : Surface.text s = .ok t
  selection_infix : S <:+: t
  replaceAll_cases : ∀ t', (∃ s', Surface.replaceAll t' s = .ok s' ∧ Surface.text s' = .ok t') ∨
    ∃ log, Surface.replaceAll t' s = .error (.unchanged log)

/-- A buffer is replaced unless it refuses to be. -/
theorem Buffer.replaceAll_eq_ok {b : Buffer} (h : b.refuses = false) (t : Text) :
    Surface.replaceAll t b = .ok { b with text := t, replacements := b.replacements + 1 } := by
  simp [Surface.replaceAll, Buffer.replaceAll?, h]

/-- A buffer that refuses to be replaced stays as it is. -/
theorem Buffer.replaceAll_eq_unchanged {b : Buffer} (h : b.refuses = true) (t : Text) :
    Surface.replaceAll t b = .error (.unchanged []) := by
  simp [Surface.replaceAll, Buffer.replaceAll?, h]

/-- A buffer can always be read. -/
theorem Buffer.readable (b : Buffer) : Surface.Readable b b.text b.selection where
  selection_eq := rfl
  text_eq := rfl
  selection_infix := slice_infix b.text b.start b.stop
  replaceAll_cases t' := by
    cases hrefuses : b.refuses with
    | false => exact .inl ⟨_, Buffer.replaceAll_eq_ok hrefuses t', rfl⟩
    | true => exact .inr ⟨[], Buffer.replaceAll_eq_unchanged hrefuses t'⟩

namespace OpenFile

variable {f f' : OpenFile} {t S : Text} {bytes : Bytes}

/-- The text of a file is what its bytes encode. -/
theorem text_eq_ok_iff :
    f.text = .ok t ↔ ∃ bytes, f.files.read f.path = .ok bytes ∧ Utf8.decode bytes = .ok t := by
  unfold text
  cases f.files.read f.path with
  | error fault => simp
  | ok bytes => cases hdecode : Utf8.decode bytes <;> simp [Except.mapError, hdecode]

/-- A file that is replaced is written over with the bytes of the new text. -/
theorem overwritten_of_replaceAll (h : Surface.replaceAll t f = .ok f') :
    ∃ files, f' = { f with files := files } ∧
      Files.Overwritten f.files f.path (Utf8.encode t) files := by
  change (f.replaceAll t).mapError f.refusal = .ok f' at h
  unfold OpenFile.replaceAll at h
  cases hfiles : f.files.replace f.path (Utf8.encode t) with
  | error fault => rw [hfiles] at h; cases h
  | ok files =>
    rw [hfiles] at h
    cases h
    exact ⟨files, rfl, Files.overwritten_of_replace hfiles⟩

/-- A file that is written over with the bytes of a text has this text. -/
theorem text_of_overwritten {files : Files}
    (h : Files.Overwritten f.files f.path (Utf8.encode t) files) :
    OpenFile.text { f with files := files } = .ok t :=
  text_eq_ok_iff.2 ⟨Utf8.encode t, h.read_eq, Utf8.decode_encode t⟩

/-- A file that can be read and written is replaced. -/
theorem exists_replaceAll_of_writable (h : f.text = .ok t) (hwritable : f.files.Writable f.path)
    (t' : Text) :
    ∃ files, Surface.replaceAll t' f = .ok { f with files := files } ∧
      Files.Overwritten f.files f.path (Utf8.encode t') files := by
  obtain ⟨bytes, hread, _⟩ := text_eq_ok_iff.1 h
  obtain ⟨files, hfiles⟩ := hwritable bytes hread (Utf8.encode t')
  refine ⟨files, ?_, Files.overwritten_of_replace hfiles⟩
  change (f.replaceAll t').mapError f.refusal = _
  rw [OpenFile.replaceAll, hfiles]
  rfl

/-- A file that can be read is replaced if a draft of it is taken. -/
theorem exists_replaceAll_eq_ok (h : f.text = .ok t) (hdraft : f.files.takesDraft f.path = true)
    (t' : Text) :
    ∃ files, Surface.replaceAll t' f = .ok { f with files := files } ∧
      Files.Overwritten f.files f.path (Utf8.encode t') files :=
  exists_replaceAll_of_writable h (Files.writable_of_takesDraft hdraft) t'

/-- A file that can be read stays as it is if no draft of it is taken. -/
theorem exists_replaceAll_eq_unchanged (h : f.text = .ok t)
    (hdraft : f.files.takesDraft f.path = false) (t' : Text) :
    ∃ log, Surface.replaceAll t' f = .error (.unchanged log) := by
  obtain ⟨bytes, hread, _⟩ := text_eq_ok_iff.1 h
  obtain ⟨l, hl, _⟩ := Files.read_eq_ok_iff.1 hread
  obtain ⟨fault, hfault⟩ := Files.exists_replace_eq_error hdraft (Utf8.encode t')
  have hcause : fault.cause ≠ .unfit .nullByte := fun hcause => by
    cases ((Files.fault_of_replace hfault).2.1 hcause).symm.trans hl
  refine ⟨[f.writeFailure fault], ?_⟩
  change (f.replaceAll t').mapError f.refusal = _
  rw [OpenFile.replaceAll, hfault, Except.map, Except.mapError, refusal, if_neg hcause]

/-- A file that can be read is a surface that can be read. -/
theorem readable (h : f.text = .ok t) : Surface.Readable f t (f.lines.select t) where
  selection_eq := by
    change f.text.map f.lines.select = _
    rw [h]
    rfl
  text_eq := h
  selection_infix := f.lines.select_infix t
  replaceAll_cases t' := by
    cases hdraft : f.files.takesDraft f.path with
    | true =>
      obtain ⟨files, hfiles, hover⟩ := exists_replaceAll_eq_ok h hdraft t'
      exact .inl ⟨_, hfiles, text_of_overwritten hover⟩
    | false => exact .inr (exists_replaceAll_eq_unchanged h hdraft t')

end OpenFile

/-! ## Runs -/

namespace Run

variable {σ : Type} [Surface σ] {s s' : σ} {c : Config} {n : Notifier} {S t : Text}
  {g : Generated}

/-- A run on a surface whose selection cannot be read ends without a notice. -/
theorem generate_of_unreadable {fault : ReadFault} (hS : Surface.selection s = .error fault) :
    generate c n s = .error fault := by
  rw [generate, hS]
  rfl

/-- A run ends with the fault that keeps the package from being made. -/
theorem generate_of_fault {fault : Fault} (hS : Surface.selection s = .ok S)
    (hbuild : Generated.build S c.naming c.validation.requireKey = .error fault) :
    generate c n s = .ok (close n (.error fault) s (Generated.buildLog S)) := by
  rw [generate, hS]
  simp only [bind, Except.bind, hbuild]
  rfl

/-- A run ends with a fault if the document is not replaced. -/
theorem generate_of_refusal {log : List LogEntry} (hS : Surface.selection s = .ok S)
    (ht : Surface.text s = .ok t)
    (hbuild : Generated.build S c.naming c.validation.requireKey = .ok g)
    (hreplace : Surface.replaceAll (g.expandIn t) s = .error (.unchanged log)) :
    generate c n s =
      .ok (close n (.error .documentUpdate) s (Generated.buildLog S ++ log)) := by
  rw [generate, hS]
  simp only [bind, Except.bind, hbuild, ht, hreplace]
  rfl

/-- A run ends with the package if the document is replaced. -/
theorem generate_of_replaced (hS : Surface.selection s = .ok S) (ht : Surface.text s = .ok t)
    (hbuild : Generated.build S c.naming c.validation.requireKey = .ok g)
    (hreplace : Surface.replaceAll (g.expandIn t) s = .ok s') :
    generate c n s = .ok (close n (.ok g) s' (Generated.buildLog S)) := by
  rw [generate, hS]
  simp only [bind, Except.bind, hbuild, ht, hreplace]
  rfl

end Run

/-! ## Replies -/

section Replies

variable {σ : Type}

/-- A reply tells the user one notice and nothing else: it is added to the notes that are kept,
    or it is the last thing that the log is told. -/
structure Reply.Tells (s : Session σ) (r : Reply σ) (notice : Notice) : Prop where
  notes : ∀ notes, s.notifier = .recording notes →
    r.session.notifier = .recording (notes.add notice)
  log : s.notifier = .logging →
    r.session.notifier = .logging ∧ ∃ log, r.log = log ++ [notice.entry]

/-- The command has generated a package for the selection, `t'` is the document with the package
    behind the first occurrence of the selection, and the user is told an info. -/
structure Reply.Inserts [Surface σ] (s : Session σ) (r : Reply σ) (g : Generated) (t' : Text) :
    Prop where
  answer_eq : r.answer = .generated g
  selection_eq : Surface.selection s.surface = .ok g.selection
  selection_ne_nil : g.selection ≠ []
  text_eq : ∃ t u v, Surface.text s.surface = .ok t ∧ Text.FirstAt g.selection t u v ∧
    t' = u ++ g.selection ++ ("\n\n" ++ g.package.declarations ++ "\n\n" ++
      g.package.definitions) ++ v ∧ t' ≠ t
  replaced : Surface.replaceAll t' s.surface = .ok r.session.surface
  tells : ∃ message, r.Tells s (.info message)

/-- The command has generated nothing, the surface is as it was, and the user is told an
    error. -/
structure Reply.Declines (s : Session σ) (r : Reply σ) : Prop where
  answer_eq : r.answer = .nothing
  surface_eq : r.session.surface = s.surface
  tells : ∃ message, r.Tells s (.error message)

/-- The end of a run tells the notice about its outcome. -/
theorem tells_close (s : Session σ) (outcome : Outcome) (surface : σ) (log : List LogEntry) :
    (s.afterRun (.close s.notifier outcome surface log)).Tells s outcome.notice where
  notes notes h := by rw [h]; rfl
  log h := by rw [h]; exact ⟨rfl, _, rfl⟩

/-- A run that ends with a fault declines. -/
theorem declines_close (s : Session σ) (fault : Fault) (log : List LogEntry) :
    (s.afterRun (.close s.notifier (.error fault) s.surface log)).Declines s where
  answer_eq := rfl
  surface_eq := rfl
  tells := ⟨fault.message, tells_close s (.error fault) s.surface log⟩

variable [Surface σ] {s : Session σ} {c : Config}

theorem Session.generate_eq_afterRun {run : Run σ}
    (h : Run.generate c s.notifier s.surface = .ok run) : s.generate c true = s.afterRun run := by
  rw [generate, h]
  rfl

/-- A surface that cannot be read ends a run with this, and nothing has changed or is told. -/
theorem Session.generate_of_unreadable {fault : ReadFault}
    (h : Surface.selection s.surface = .error fault) :
    s.generate c true = ⟨.unreadable fault, s, []⟩ := by
  rw [generate, Run.generate_of_unreadable h]
  rfl

/-- On a surface that can be read, a run inserts the package, or it declines. -/
theorem Session.generate_of_readable {t S : Text} (h : Surface.Readable s.surface t S) :
    (∃ g t', (s.generate c true).Inserts s g t') ∨ (s.generate c true).Declines s := by
  cases hbuild : Generated.build S c.naming c.validation.requireKey with
  | error fault =>
    rw [generate_eq_afterRun (Run.generate_of_fault h.selection_eq hbuild)]
    exact .inr (declines_close s fault _)
  | ok g =>
    have hgS := Generated.selection_of_build hbuild
    obtain ⟨u, v, hfirst⟩ := Text.exists_firstAt (hgS ▸ h.selection_infix)
    rcases h.replaceAll_cases (g.expandIn t) with ⟨s', hs', _⟩ | ⟨log, hlog⟩
    · rw [generate_eq_afterRun (Run.generate_of_replaced h.selection_eq h.text_eq hbuild hs')]
      have hexpand := Generated.expandIn_eq hfirst
      refine .inl ⟨g, g.expandIn t, rfl, hgS ▸ h.selection_eq, ?_, ⟨t, u, v, h.text_eq, hfirst,
        hexpand, fun heq => ?_⟩, hs', ⟨_, tells_close s (.ok g) s' _⟩⟩
      · exact hgS ▸ Generated.ne_nil_of_build hbuild
      · -- The document has become longer by the insertion.
        have hlen := congrArg List.length (hexpand.symm.trans (heq.trans hfirst.eq_append))
        simp only [List.length_append] at hlen
        exact g.insertion_ne_nil (List.eq_nil_of_length_eq_zero (by omega))
    · rw [generate_eq_afterRun (Run.generate_of_refusal h.selection_eq h.text_eq hbuild hlog)]
      exact .inr (declines_close s .documentUpdate _)

end Replies

/-- On a buffer, a run inserts the package and the buffer has the new text, or it declines. -/
theorem Session.generate_buffer (s : Session Buffer) (c : Config) :
    (∃ g t', (s.generate c true).Inserts s g t' ∧ (s.generate c true).session.surface.text = t') ∨
      (s.generate c true).Declines s := by
  rcases s.generate_of_readable (c := c) s.surface.readable with ⟨g, t', h⟩ | h
  · refine .inl ⟨g, t', h, ?_⟩
    rcases s.surface.readable.replaceAll_cases t' with ⟨b, hb, hbt⟩ | ⟨log, hlog⟩
    · rw [h.replaced] at hb
      cases hb
      exact Except.ok.inj hbt
    · rw [h.replaced] at hlog
      cases hlog
  · exact .inr h

/-- On a file with a text, a run inserts the package and writes the file over with the new text,
    or it declines. -/
theorem Session.generate_file {s : Session OpenFile} {t : Text} (htext : s.surface.text = .ok t)
    (c : Config) :
    (∃ g t' files, (s.generate c true).Inserts s g t' ∧
      (s.generate c true).session.surface = { s.surface with files := files } ∧
      Files.Overwritten s.surface.files s.surface.path (Utf8.encode t') files ∧
      (s.generate c true).session.surface.text = .ok t') ∨
    (s.generate c true).Declines s := by
  rcases s.generate_of_readable (c := c) (OpenFile.readable htext) with ⟨g, t', h⟩ | h
  · obtain ⟨files, hfiles, hover⟩ := OpenFile.overwritten_of_replaceAll h.replaced
    exact .inl ⟨g, t', files, h, hfiles, hover, hfiles ▸ OpenFile.text_of_overwritten hover⟩
  · exact .inr h

/-- On a file without a text, a run ends with the reason. -/
theorem Session.generate_unreadable_file {s : Session OpenFile} {fault : ReadFault}
    (h : s.surface.text = .error fault) (c : Config) :
    s.generate c true = ⟨.unreadable fault, s, []⟩ := by
  refine Session.generate_of_unreadable ?_
  change s.surface.text.map s.surface.lines.select = _
  rw [h]
  rfl

/-- A run of the command only ever inserts. On a buffer, and on a file with a text, it inserts the
    package behind the first occurrence of the selection, or it declines and changes nothing; a
    file that is replaced is the only one whose bytes change. A file that is missing, is a
    directory, or has no text ends the run with this; nothing is told then, and nothing changes. -/
theorem generate_only_inserts (c : Config) :
    (∀ s : Session Buffer,
      (∃ g t', (s.generate c true).Inserts s g t' ∧ (s.generate c true).session.surface.text = t') ∨
        (s.generate c true).Declines s) ∧
    ∀ s : Session OpenFile,
      let file := s.surface
      match file.files.lookup file.path with
      | .error cause =>
        s.generate c true = ⟨.unreadable (.unreadable ⟨cause, file.path⟩), s, []⟩
      | .ok .directory =>
        s.generate c true = ⟨.unreadable (.unreadable ⟨.isDirectory, file.path⟩), s, []⟩
      | .ok (.file bytes) =>
        match Utf8.decode bytes with
        | .error fault => s.generate c true = ⟨.unreadable (.undecodable fault), s, []⟩
        | .ok _ =>
          (∃ g t' files, (s.generate c true).Inserts s g t' ∧
            (s.generate c true).session.surface = { file with files := files } ∧
            Files.Overwritten file.files file.path (Utf8.encode t') files ∧
            (s.generate c true).session.surface.text = .ok t') ∨
          (s.generate c true).Declines s := by
  refine ⟨fun s => s.generate_buffer c, fun s => ?_⟩
  dsimp only
  cases hlookup : s.surface.files.lookup s.surface.path with
  | error cause =>
    refine Session.generate_unreadable_file ?_ c
    rw [OpenFile.text, Files.read, hlookup]
  | ok node =>
    cases node with
    | directory =>
      refine Session.generate_unreadable_file ?_ c
      rw [OpenFile.text, Files.read, hlookup]
    | file bytes =>
      have hread : s.surface.files.read s.surface.path = .ok bytes := by rw [Files.read, hlookup]
      dsimp only
      cases hdecode : Utf8.decode bytes with
      | error fault =>
        refine Session.generate_unreadable_file ?_ c
        rw [OpenFile.text, hread]
        dsimp only
        rw [hdecode]
        rfl
      | ok t => exact Session.generate_file (OpenFile.text_eq_ok_iff.2 ⟨bytes, hread, hdecode⟩) c

end TablePackage
