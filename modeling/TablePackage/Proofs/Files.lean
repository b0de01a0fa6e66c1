import TablePackage.Files
import TablePackage.Proofs.Results
import TablePackage.Proofs.Text.Utf8

/-!
# Writing over a file

Writing over the file at the end of a path puts bytes at one place and leaves every other place
as it is, so all paths lead where they led before, and the file then has these bytes. This is done
exactly if there is a file and a draft of it is taken (`Files.takesDraft`). Otherwise nothing
changes, whichever stage fails, and in no case is a draft left.

* `Writing.files_of_take`, `Writing.remembered_of_take`: what one stage keeps;
* `Writing.take_of_run`: a run ends where a stage fails;
* `Files.files_writeOver_of_error`, `Files.draft_writeOver`: what is left behind the stages;
* `Files.replace_eq_ok_iff`: when a file is written over;
* `Files.overwritten_of_replace`: the one place that changes.
-/

namespace TablePackage

open Results

/-! ## Stages -/

namespace Files

variable {files : Files} {p : Path} {stage : Writing.Stage} {cause : FileCause} {node : Node}

theorem ask_eq_ok_iff {u : Unit} :
    files.ask p stage = .ok u ↔ files.refusal? p stage = none := by
  unfold ask
  cases files.refusal? p stage <;> simp

/-- A refusal of the system says nothing of the path. -/
theorem ask_ne_unfit : files.ask p stage ≠ .error (.unfit cause) := by
  unfold ask
  cases files.refusal? p stage <;> simp

/-- Nor does what is done once the system has agreed. -/
theorem ask_bind_ne_unfit {α : Type} {a : α} :
    (files.ask p stage >>= fun _ => pure a) ≠ .error (.unfit cause) := by
  intro h
  rcases bind_eq_error_iff.1 h with h | ⟨-, -, h⟩
  · exact ask_ne_unfit h
  · exact pure_ne_error h

theorem takesDraft_iff : files.takesDraft p = true ↔ namesDraft p = true ∧
    files.refusal? p .create = none ∧ files.refusal? p .fill = none ∧
      files.refusal? p .copyMode = none ∧ files.refusal? p .swap = none := by
  simp [takesDraft]

theorem lookup_eq_ok_iff : files.lookup p = .ok node ↔
    ∃ l, files.resolve p = .ok l ∧ files.node? l = some node := by
  rw [lookup, bind_eq_ok_iff]
  refine exists_congr fun l => and_congr_right fun _ => ?_
  cases files.node? l <;> simp [throw, throwThe, MonadExceptOf.throw, pure, Except.pure]

/-- Whether a path can be looked up at all is seen before its steps are taken. -/
theorem resolve_eq_nullByte_of_lookup (h : files.lookup p = .error .nullByte) :
    files.resolve p = .error .nullByte := by
  rcases bind_eq_error_iff.1 h with h | ⟨l, -, h⟩
  · exact h
  · cases hnode : files.node? l <;> rw [hnode] at h <;> cases h

end Files

namespace Writing

variable {w w' : Writing} {p : Path} {bytes : Bytes} {stage : Stage} {stages : List Stage}
  {cause : WriteCause}

theorem take_create_eq_ok_iff : w.take p bytes .create = .ok w' ↔
    (∃ l, w.files.resolve p = .ok l) ∧ Files.namesDraft p = true ∧
      w.files.refusal? p .create = none ∧ w' = { w with draft := some [] } := by
  simp only [take, bind_eq_ok_iff, mapError_eq_ok_iff, exists_and_right]
  refine and_congr_right fun _ => ?_
  split
  · simp only [bind_eq_ok_iff, Files.ask_eq_ok_iff, pure_eq_ok_iff, exists_const, *, true_and]
  · simp [*]

theorem take_fill_eq_ok_iff : w.take p bytes .fill = .ok w' ↔
    w.files.refusal? p .fill = none ∧ w' = { w with draft := w.draft.map fun _ => bytes } := by
  simp only [take, bind_eq_ok_iff, Files.ask_eq_ok_iff, pure_eq_ok_iff, exists_const]

theorem take_copyMode_eq_ok_iff : w.take p bytes .copyMode = .ok w' ↔
    (∃ node, w.files.lookup p = .ok node) ∧ w.files.refusal? p .copyMode = none ∧ w' = w := by
  simp only [take, bind_eq_ok_iff, mapError_eq_ok_iff, Files.ask_eq_ok_iff, pure_eq_ok_iff,
    exists_const, exists_and_right]

theorem take_swap_eq_ok_iff : w.take p bytes .swap = .ok w' ↔
    ∃ l new, w.files.resolve p = .ok l ∧ w.files.node? l ≠ some .directory ∧ w.draft = some new ∧
      w.files.refusal? p .swap = none ∧
        w' = { w with files := w.files.put l (.file new), draft := none } := by
  simp only [take, bind_eq_ok_iff, mapError_eq_ok_iff, exists_and_left]
  refine exists_congr fun l => and_congr_right fun _ => ?_
  split
  · simp [*]
  · simp [*]
  · rename_i hdraft hnode
    have hne : w.files.node? l ≠ some .directory := hnode
    simp [bind_eq_ok_iff, pure_eq_ok_iff, Files.ask_eq_ok_iff, hdraft, hne, -bind_pure_comp]

/-! ### What a stage keeps -/

/-- Only the swap changes the files. -/
theorem files_of_take (h : w.take p bytes stage = .ok w') (hstage : stage ≠ .swap) :
    w'.files = w.files := by
  cases stage with
  | create => rw [(take_create_eq_ok_iff.1 h).2.2.2]
  | remember => cases h; rfl
  | fill => rw [(take_fill_eq_ok_iff.1 h).2]
  | copyMode => rw [(take_copyMode_eq_ok_iff.1 h).2.2]
  | swap => exact absurd rfl hstage

/-- Whatever stage sees a null character, it sees it in the path. -/
theorem resolve_of_take_eq_nullByte (h : w.take p bytes stage = .error (.unfit .nullByte)) :
    w.files.resolve p = .error .nullByte := by
  have hunfit : ∀ {α : Type} {x : Except FileCause α},
      x.mapError WriteCause.unfit = .error (.unfit .nullByte) → x = .error .nullByte := by
    intro α x hx
    obtain ⟨cause, hcause, he⟩ := mapError_eq_error_iff.1 hx
    cases he
    exact hcause
  cases stage with
  | create =>
    rcases bind_eq_error_iff.1 h with h | ⟨l, -, h⟩
    · exact hunfit h
    · split at h
      · exact absurd h Files.ask_bind_ne_unfit
      · cases throw_eq_error_iff.1 h
  | remember => cases h
  | fill =>
    exact absurd h Files.ask_bind_ne_unfit
  | copyMode =>
    rcases bind_eq_error_iff.1 h with h | ⟨node, -, h⟩
    · exact Files.resolve_eq_nullByte_of_lookup (hunfit h)
    · exact absurd h Files.ask_bind_ne_unfit
  | swap =>
    rcases bind_eq_error_iff.1 h with h | ⟨l, -, h⟩
    · exact hunfit h
    · split at h
      · cases throw_eq_error_iff.1 h
      · cases throw_eq_error_iff.1 h
      · exact absurd h Files.ask_bind_ne_unfit

/-! ## Runs -/

/-- A run ends where a stage fails. -/
theorem take_of_run (h : w.run p bytes stages = (some cause, w')) :
    ∃ stage ∈ stages, w'.take p bytes stage = .error cause := by
  induction stages generalizing w with
  | nil => cases h
  | cons stage stages ih =>
    rw [run] at h
    cases htake : w.take p bytes stage with
    | error cause' =>
      rw [htake] at h
      cases h
      exact ⟨stage, List.mem_cons_self, htake⟩
    | ok w₁ =>
      rw [htake] at h
      obtain ⟨stage', hmem, hfails⟩ := ih h
      exact ⟨stage', List.mem_cons_of_mem stage hmem, hfails⟩

/-- The files are as they were where a run fails that has the swap as its last stage. -/
theorem files_of_run (hstages : .swap ∉ stages)
    (h : w.run p bytes (stages ++ [.swap]) = (some cause, w')) : w'.files = w.files := by
  induction stages generalizing w with
  | nil =>
    rw [List.nil_append, run] at h
    cases htake : w.take p bytes .swap <;> rw [htake] at h <;> cases h
    rfl
  | cons stage stages ih =>
    rw [List.mem_cons, not_or] at hstages
    rw [List.cons_append, run] at h
    cases htake : w.take p bytes stage with
    | error cause' =>
      rw [htake] at h
      cases h
      rfl
    | ok w₁ =>
      rw [htake] at h
      exact (ih hstages.2 h).trans (files_of_take htake (Ne.symm hstages.1))

/-- The swap is the last stage of all. -/
theorem files_of_run_stages (h : w.run p bytes Writing.stages = (some cause, w')) :
    w'.files = w.files := by
  have hstages : Writing.stages = [.create, .remember, .fill, .copyMode] ++ [.swap] := rfl
  rw [hstages] at h
  exact files_of_run (by decide) h

theorem run_cons_eq_none_iff : w.run p bytes (stage :: stages) = (none, w') ↔
    ∃ w₁, w.take p bytes stage = .ok w₁ ∧ w₁.run p bytes stages = (none, w') := by
  rw [run]
  cases w.take p bytes stage <;> simp

theorem run_nil_eq_none_iff : w.run p bytes [] = (none, w') ↔ w' = w := by
  simp [run, eq_comm]

/-- All stages are taken if there is a file and a draft of it is taken. -/
theorem run_stages_eq_none_iff {files : Files} :
    run p bytes { files := files } Writing.stages = (none, w) ↔ files.takesDraft p = true ∧
      ∃ l old, files.resolve p = .ok l ∧ files.node? l = some (.file old) ∧
        w = ⟨files.put l (.file bytes), none, true⟩ := by
  rw [Files.takesDraft_iff]
  simp only [Writing.stages, run_cons_eq_none_iff, run_nil_eq_none_iff, take_create_eq_ok_iff,
    take_fill_eq_ok_iff, take_copyMode_eq_ok_iff, take_swap_eq_ok_iff, Files.lookup_eq_ok_iff]
  constructor
  · rintro ⟨_, ⟨-, hname, hcreate, rfl⟩, _, hremember, _, ⟨hfill, rfl⟩, _, ⟨⟨node, l, hl, hnode⟩,
      hmode, rfl⟩, _, ⟨l', new, hl', hdir, hnew, hswap, rfl⟩, rfl⟩
    cases hremember
    obtain rfl : l = l' := Except.ok.inj (hl.symm.trans hl')
    obtain rfl : bytes = new := Option.some.inj hnew
    cases node with
    | directory => exact absurd hnode hdir
    | file old => exact ⟨⟨hname, hcreate, hfill, hmode, hswap⟩, l, old, hl, hnode, rfl⟩
  · rintro ⟨⟨hname, hcreate, hfill, hmode, hswap⟩, l, old, hl, hnode, rfl⟩
    refine ⟨_, ⟨⟨l, hl⟩, hname, hcreate, rfl⟩, _, rfl, _, ⟨hfill, rfl⟩, _,
      ⟨⟨_, l, hl, hnode⟩, hmode, rfl⟩, _, ⟨l, bytes, hl, ?_, rfl, hswap, rfl⟩, rfl⟩
    rw [hnode]
    exact fun h => nomatch h

end Writing

namespace Files

variable {files files' : Files} {p : Path} {bytes : Bytes}

/-! ## One place -/

/-- What is found at `k` where every entry at `l` is written over. -/
theorem find?_overwrite (entries : List (Place × Node)) (l k : Place) (node : Node) :
    ((entries.map fun e => if e.1 = l then (l, node) else e).find? (·.1 = k)).map (·.2) =
      if k = l then (entries.find? (·.1 = k)).map fun _ => node
      else (entries.find? (·.1 = k)).map (·.2) := by
  induction entries with
  | nil => rw [List.map_nil, List.find?_nil]; split <;> rfl
  | cons e entries ih =>
    have hfst : (if e.1 = l then (l, node) else e).1 = e.1 := by
      split
      · rename_i hel; exact hel.symm
      · rfl
    rw [List.map_cons]
    by_cases hek : e.1 = k
    · rw [List.find?_cons_of_pos (by simpa [hfst] using hek),
        List.find?_cons_of_pos (by simpa using hek)]
      by_cases hkl : k = l
      · rw [if_pos (hek.trans hkl), if_pos hkl]; rfl
      · rw [if_neg (hek ▸ hkl), if_neg hkl]
    · rw [List.find?_cons_of_neg (by simpa [hfst] using hek),
        List.find?_cons_of_neg (by simpa using hek), ih]

/-- A place holds what is put there, other places what they held. The working directory and the
    places above it are directories, whatever is put there. -/
theorem node?_put (files : Files) (l k : Place) (node : Node) (hl : l.isTop = false) :
    (files.put l node).node? k = if k = l then some node else files.node? k := by
  by_cases htop : k.isTop
  · have hne : k ≠ l := fun h => by rw [h, hl] at htop; cases htop
    rw [if_neg hne, node?, node?, if_pos htop, if_pos htop]
  rw [node?, node?, if_neg htop, if_neg htop, put]
  split
  · rename_i hany
    rw [find?_overwrite]
    by_cases hkl : k = l
    · rw [if_pos hkl, if_pos hkl]
      obtain ⟨e, he, hel⟩ := List.any_eq_true.1 hany
      have hsome : (files.entries.find? (·.1 = k)).isSome :=
        List.find?_isSome.2 ⟨e, he, by simpa [hkl] using hel⟩
      obtain ⟨e', he'⟩ := Option.isSome_iff_exists.1 hsome
      rw [he', Option.map_some]
    · rw [if_neg hkl, if_neg hkl]
  · rename_i hany
    rw [List.find?_append]
    by_cases hkl : k = l
    · have hnone : files.entries.find? (·.1 = k) = none :=
        List.find?_eq_none.2 fun e he hek =>
          hany (List.any_eq_true.2 ⟨e, he, by simpa [hkl] using hek⟩)
      rw [hnone, Option.none_or, List.find?_cons_of_pos (by simpa using hkl.symm), if_pos hkl]
      rfl
    · have hlk : ¬l = k := fun h => hkl h.symm
      rw [if_neg hkl, List.find?_cons_of_neg (by simpa using hlk), List.find?_nil, Option.or_none]

/-! ## Writing over -/

/-- A file is written over if there is one and a draft of it is taken. -/
theorem replace_eq_ok_iff : files.replace p bytes = .ok files' ↔ files.takesDraft p = true ∧
    ∃ l old, files.resolve p = .ok l ∧ files.node? l = some (.file old) ∧
      files' = files.put l (.file bytes) := by
  rw [replace, writeOver]
  cases hrun : Writing.run p bytes { files := files } Writing.stages with
  | mk cause w =>
    cases cause with
    | none =>
      obtain ⟨hdraft, l, old, hl, hold, rfl⟩ := Writing.run_stages_eq_none_iff.1 hrun
      constructor
      · rintro ⟨⟩
        exact ⟨hdraft, l, old, hl, hold, rfl⟩
      · rintro ⟨-, l', old', hl', -, rfl⟩
        obtain rfl : l = l' := Except.ok.inj (hl.symm.trans hl')
        rfl
    | some cause =>
      refine iff_of_false (fun h => nomatch h) ?_
      rintro ⟨hdraft, l, old, hl, hold, -⟩
      cases hrun.symm.trans (Writing.run_stages_eq_none_iff.2 ⟨hdraft, l, old, hl, hold, rfl⟩)

/-- A file that is not written over is told with its path, and a null character is seen in this
    path or nowhere. -/
theorem fault_of_replace {fault : WriteFault} (h : files.replace p bytes = .error fault) :
    fault.path = p ∧
      (fault.cause = .unfit .nullByte ↔ files.resolve p = .error .nullByte) := by
  rw [replace, writeOver] at h
  cases hrun : Writing.run p bytes { files := files } Writing.stages with
  | mk cause w =>
    rw [hrun] at h
    cases cause with
    | none => cases h
    | some cause =>
      cases h
      refine ⟨rfl, fun hcause => ?_, fun hpath => ?_⟩
      · obtain ⟨stage, -, hfails⟩ := Writing.take_of_run hrun
        have hfiles : w.files = files := Writing.files_of_run_stages hrun
        rw [show cause = _ from hcause] at hfails
        exact hfiles ▸ Writing.resolve_of_take_eq_nullByte hfails
      · have hcreate : Writing.take p bytes { files := files } .create =
            .error (.unfit .nullByte) :=
          bind_eq_error_iff.2 (.inl (mapError_eq_error_iff.2 ⟨_, hpath, rfl⟩))
        rw [Writing.stages, Writing.run, hcreate] at hrun
        cases hrun
        rfl

/-! ## Other bytes -/

/-- `files'` are `files` with other bytes in the file at the end of a path: this file is the
    only place that changes, and the system answers as before. -/
def Overwritten (files : Files) (p : Path) (bytes : Bytes) (files' : Files) : Prop :=
  files'.refusal? = files.refusal? ∧ ∃ l old, files.resolve p = .ok l ∧
    files.node? l = some (.file old) ∧
      ∀ k, files'.node? k = if k = l then some (.file bytes) else files.node? k

theorem lookup_eq_file_iff : files.lookup p = .ok (.file bytes) ↔ files.read p = .ok bytes := by
  unfold read
  cases hlookup : files.lookup p with
  | error cause => simp
  | ok node => cases node <;> simp

/-- A path leads to a file whose bytes are read. -/
theorem read_eq_ok_iff : files.read p = .ok bytes ↔
    ∃ l, files.resolve p = .ok l ∧ files.node? l = some (.file bytes) := by
  rw [← lookup_eq_file_iff, lookup_eq_ok_iff]

/-- After a file is written over, paths lead where they led before. -/
theorem Overwritten.resolve_eq (h : Overwritten files p bytes files') (q : Path) :
    files'.resolve q = files.resolve q := by
  obtain ⟨-, l, old, -, hl, hnode⟩ := h
  have hstep : files'.step = files.step := by
    funext k s
    rw [step, step, hnode k]
    by_cases hk : k = l
    · rw [if_pos hk, hk, hl]
    · rw [if_neg hk]
  rw [resolve, resolve, hstep]

/-- A file that is written over has the new bytes. -/
theorem Overwritten.read_eq (h : Overwritten files p bytes files') :
    files'.read p = .ok bytes := by
  have hres := h.resolve_eq p
  obtain ⟨-, l, old, hl, -, hnode⟩ := h
  exact read_eq_ok_iff.2 ⟨l, hres.trans hl, by rw [hnode, if_pos rfl]⟩

/-- A draft of each file is taken if it was before. -/
theorem Overwritten.takesDraft_eq (h : Overwritten files p bytes files') (q : Path) :
    files'.takesDraft q = files.takesDraft q := by
  rw [takesDraft, takesDraft, h.1]

/-- Where a file is written over, it is the only place that changes. -/
theorem overwritten_of_replace (h : files.replace p bytes = .ok files') :
    Overwritten files p bytes files' := by
  obtain ⟨-, l, old, hl, hold, rfl⟩ := replace_eq_ok_iff.1 h
  have htop : l.isTop = false := by
    by_contra htop
    rw [node?, if_pos (by simpa using htop)] at hold
    cases hold
  refine ⟨?_, l, old, hl, hold, fun k => node?_put files l k (.file bytes) htop⟩
  rw [put]
  split <;> rfl

/-- A file is written over if a draft of it is taken. -/
theorem exists_replace_eq_ok {old : Bytes} (hread : files.read p = .ok old)
    (hdraft : files.takesDraft p = true) (bytes : Bytes) :
    ∃ files', files.replace p bytes = .ok files' := by
  obtain ⟨l, hl, hnode⟩ := read_eq_ok_iff.1 hread
  exact ⟨_, replace_eq_ok_iff.2 ⟨hdraft, l, old, hl, hnode, rfl⟩⟩

/-- A file is not written over if no draft of it is taken. -/
theorem exists_replace_eq_error (hdraft : files.takesDraft p = false) (bytes : Bytes) :
    ∃ fault, files.replace p bytes = .error fault := by
  cases hreplace : files.replace p bytes with
  | error fault => exact ⟨fault, rfl⟩
  | ok files' =>
    rw [(replace_eq_ok_iff.1 hreplace).1] at hdraft
    cases hdraft

/-- The file at the end of a path, if there is one, can be written over with any bytes. -/
def Writable (files : Files) (p : Path) : Prop :=
  ∀ old, files.read p = .ok old → ∀ bytes, ∃ files', files.replace p bytes = .ok files'

theorem writable_of_takesDraft (hdraft : files.takesDraft p = true) : files.Writable p :=
  fun _ hread => exists_replace_eq_ok hread hdraft

/-! ## A single file -/

/-- A file in the working directory, and nothing else. -/
def single (name : Text) (bytes : Bytes) : Files := { entries := [([name], .file bytes)] }

theorem toText_name (name : Text) : Path.toText ⟨[], [name]⟩ = name := by
  rw [Path.toText, if_neg (by simp), List.nil_append, Text.join, List.intercalate_singleton]

/-- The bytes of a single file are read, unless its name is none of a file, or too long. -/
theorem read_single {name : Text} (hnull : '\x00' ∉ name)
    (hlength : (Utf8.encode name).length ≤ stepLimit) (hparent : name ≠ ['.', '.'])
    (hroot : name ≠ ['/']) (bytes : Bytes) :
    (single name bytes).read ⟨[], [name]⟩ = .ok bytes := by
  have hpath : ¬pathLimit < (Utf8.encode name).length :=
    Nat.not_lt.2 (Nat.le_trans hlength (by decide))
  have hstep : (single name bytes).step [] name = .ok [name] := by
    have htop : (single name bytes).node? [] = some .directory := rfl
    rw [step, htop]
    dsimp only
    rw [if_neg (Nat.not_lt.2 hlength), Place.next, if_neg hparent, List.nil_append]
  have htop : Place.isTop [name] = false := by simp [Place.isTop, hparent, hroot]
  refine read_eq_ok_iff.2 ⟨[name], ?_, ?_⟩
  · rw [resolve, toText_name, if_neg hnull, if_neg hpath, Path.start, if_pos rfl, List.foldlM_cons,
      hstep]
    rfl
  · rw [node?, htop]
    simp [single]

/-- A single file with a long name can be read, but no draft of it is taken. -/
theorem single_replicate {n : Nat} (hn : 241 < n ∧ n ≤ 255) (bytes : Bytes) :
    let name : Text := List.replicate n 'n'
    (single name bytes).read ⟨[], [name]⟩ = .ok bytes ∧
      (single name bytes).takesDraft ⟨[], [name]⟩ = false := by
  intro name
  have hlength : (Utf8.encode name).length = n :=
    (Utf8.length_encode_replicate n 'n').trans (Nat.mul_one n)
  have hshort : ∀ t : Text, t.length < 3 → name ≠ t := fun t ht h => by
    have hname : name.length = n := List.length_replicate
    rw [h] at hname
    omega
  refine ⟨read_single (fun hmem => ?_) (hlength.symm ▸ hn.2) (hshort _ (by decide))
    (hshort _ (by decide)) bytes, ?_⟩
  · exact absurd (List.eq_of_mem_replicate hmem) (by decide)
  · have hnames : namesDraft ⟨[], [name]⟩ = false := by
      refine decide_eq_false (Nat.not_le.2 ?_)
      change 255 < (Utf8.encode name).length + 14
      omega
    rw [takesDraft, hnames, Bool.false_and]

end Files

end TablePackage
