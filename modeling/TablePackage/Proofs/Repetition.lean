import TablePackage.Proofs.Insertion
import TablePackage.Proofs.Quotes
import TablePackage.Proofs.Session

/-!
# Repeated generation

The command may be run on a whole file again and again. Each run reads the document with all that
the runs before it have appended, and still finds the table of the original text, no matter how
this ends: what is appended is a seam behind it.

The invariant is `Grown`: the document is the original text with the packages of all
successful runs behind it.

* `Generated.build_append_right`: behind a text, a seam does not matter for its package;
* `Session.generate_file_of_succeeds`, `Session.generate_file_of_fails`: one run on a file;
* `Session.generate_of_succeeds`, `Session.generate_of_fails`: one run on a grown file;
* `Session.replies_grown`: runs one after the other;
* `generate_only_appends`: repeated runs on a file.
-/

namespace TablePackage

open Declaration

/-! ## One package -/

/-- What is put behind the text `S` by a successful run with a configuration: the package of the
    table that `S` declares. -/
def appended (S : Text) (c : Config) : Text :=
  let p := Package.ofSchema c.naming (Schema.ofText S)
  "\n\n" ++ p.declarations ++ "\n\n" ++ p.definitions

/-- The package of a text stays the same when a seam is put behind the text. -/
theorem Generated.build_append_right {s : Text} (hs : Seam s) (S : Text) (n : Naming)
    (requireKey : Bool) :
    build (S ++ s) n requireKey =
      (build S n requireKey).map fun g => { g with selection := S ++ s } := by
  unfold build
  rw [opensWithTable_append_right hs, ofText_append_right hs]
  split
  · rfl
  · dsimp only
    split <;> rfl

/-! ## One run on a file -/

/-- Whether a run with a configuration succeeds on a file of which `S` is selected: a package can be
    made of `S`, and a draft of the file is taken. -/
def Succeeds (S : Text) (drafted : Bool) (c : Config) : Bool :=
  (Generated.build S c.naming c.validation.requireKey).isOk && drafted

section File

variable {s : Session OpenFile} {S t u v : Text} {c : Config}

/-- A run that succeeds puts its package behind the first occurrence of the selected text, and
    drafts are taken as before. -/
theorem Session.generate_file_of_succeeds (hread : Surface.Readable s.surface t S)
    (hfirst : Text.FirstAt S t u v)
    (hc : Succeeds S (s.surface.files.takesDraft s.surface.path) c = true) :
    ∃ g files, Generated.build S c.naming c.validation.requireKey = .ok g ∧
      (s.generate c true).answer = .generated g ∧
      (s.generate c true).session.surface = { s.surface with files := files } ∧
      files.takesDraft s.surface.path = s.surface.files.takesDraft s.surface.path ∧
      (s.generate c true).session.surface.text = .ok (u ++ S ++ g.insertion ++ v) := by
  obtain ⟨hok, hdraft⟩ := Bool.and_eq_true_iff.1 hc
  cases hbuild : Generated.build S c.naming c.validation.requireKey with
  | error fault =>
    rw [hbuild] at hok
    cases hok
  | ok g =>
    have hexpand := Generated.expandIn_eq (g := g) (Generated.selection_of_build hbuild ▸ hfirst)
    rw [Generated.selection_of_build hbuild] at hexpand
    obtain ⟨files, hfiles, hover⟩ :=
      OpenFile.exists_replaceAll_eq_ok hread.text_eq hdraft (g.expandIn t)
    have hrun := Run.generate_of_replaced (n := s.notifier) hread.selection_eq hread.text_eq
      hbuild hfiles
    rw [hexpand] at hover
    rw [Session.generate_eq_afterRun hrun]
    exact ⟨g, files, rfl, rfl, rfl, hover.takesDraft_eq _, OpenFile.text_of_overwritten hover⟩

/-- A run that does not succeed leaves the file as it is, and there is no answer. -/
theorem Session.generate_file_of_fails (hread : Surface.Readable s.surface t S)
    (hc : Succeeds S (s.surface.files.takesDraft s.surface.path) c = false) :
    (s.generate c true).session.surface = s.surface ∧ (s.generate c true).answer = .nothing := by
  cases hbuild : Generated.build S c.naming c.validation.requireKey with
  | error fault =>
    rw [Session.generate_eq_afterRun
      (Run.generate_of_fault (n := s.notifier) hread.selection_eq hbuild)]
    exact ⟨rfl, rfl⟩
  | ok g =>
    have hdraft : s.surface.files.takesDraft s.surface.path = false := by
      rw [Succeeds, hbuild] at hc
      exact hc
    obtain ⟨log, hlog⟩ :=
      OpenFile.exists_replaceAll_eq_unchanged hread.text_eq hdraft (g.expandIn t)
    rw [Session.generate_eq_afterRun (Run.generate_of_refusal (n := s.notifier)
      hread.selection_eq hread.text_eq hbuild hlog)]
    exact ⟨rfl, rfl⟩

end File

/-! ## One run on a whole file -/

/-- A file has the text `S`, and behind it what runs with the configurations `cs` have appended. The
    whole file is selected, and `drafted` says whether a draft of it is taken. -/
structure Grown (S : Text) (drafted : Bool) (cs : List Config) (f : OpenFile) : Prop where
  drafted_eq : f.files.takesDraft f.path = drafted
  lines_eq : f.lines = {}
  text_eq : f.text = .ok (S ++ cs.flatMap (appended S))

/-- A configuration that has been read from some value. -/
def Config.IsRead (c : Config) : Prop := ∃ v, Config.check v = .ok c

variable {S : Text} {drafted : Bool} {c : Config} {done cs : List Config}

/-- What runs have appended is a seam. -/
theorem seam_appended (hcs : ∀ c ∈ cs, c.IsRead) : Seam (cs.flatMap (appended S)) := by
  have hnameable : ∀ n ∈ cs.map (·.naming), Package.Nameable n (Schema.ofText S) := fun n hn => by
    obtain ⟨c, hc, rfl⟩ := List.mem_map.1 hn
    obtain ⟨v, hv⟩ := hcs c hc
    exact Package.nameable_ofText (Config.isFragment_of_check hv) S
  have hseam := Package.Nameable.seam hnameable S
  rwa [List.flatMap_map] at hseam

/-- All of a grown file is selected. -/
theorem Grown.readable {f : OpenFile} (h : Grown S drafted done f) :
    Surface.Readable f (S ++ done.flatMap (appended S)) (S ++ done.flatMap (appended S)) := by
  have hread := OpenFile.readable h.text_eq
  rwa [h.lines_eq, LineRange.select_whole] at hread

/-- What is made of a grown file is what is made of its original text. -/
theorem build_grown (hdone : ∀ c ∈ done, c.IsRead) (c : Config) :
    Generated.build (S ++ done.flatMap (appended S)) c.naming c.validation.requireKey =
      (Generated.build S c.naming c.validation.requireKey).map fun g =>
        { g with selection := S ++ done.flatMap (appended S) } :=
  Generated.build_append_right (seam_appended hdone) S c.naming c.validation.requireKey

/-- Whether a run succeeds on a grown file depends on its original text. -/
theorem succeeds_grown (hdone : ∀ c ∈ done, c.IsRead) (drafted : Bool) (c : Config) :
    Succeeds (S ++ done.flatMap (appended S)) drafted c = Succeeds S drafted c := by
  rw [Succeeds, Succeeds, build_grown hdone]
  cases Generated.build S c.naming c.validation.requireKey <;> rfl

variable {s : Session OpenFile}

/-- A run that succeeds appends the package of the original text, and answers with it. -/
theorem Session.generate_of_succeeds (hs : Grown S drafted done s.surface)
    (hdone : ∀ c ∈ done, c.IsRead) (hc : Succeeds S drafted c = true) :
    Grown S drafted (done ++ [c]) (s.generate c true).session.surface ∧
      ∃ g, (s.generate c true).answer = .generated g ∧ g.schema = Schema.ofText S ∧
        g.package = Package.ofSchema c.naming (Schema.ofText S) := by
  rw [← succeeds_grown hdone, ← hs.drafted_eq] at hc
  -- The whole document is the selection, so the package comes at its end.
  obtain ⟨g, files, hbuild, hanswer, hsurface, hdrafts, htext⟩ :=
    generate_file_of_succeeds hs.readable (Text.firstAt_self _) hc
  rw [build_grown hdone] at hbuild
  cases hmade : Generated.build S c.naming c.validation.requireKey with
  | error fault =>
    rw [hmade] at hbuild
    cases hbuild
  | ok made =>
    obtain ⟨-, -, rfl⟩ := Generated.build_eq_ok_iff.1 hmade
    rw [hmade] at hbuild
    cases hbuild
    have hdrafted := hdrafts.trans hs.drafted_eq
    refine ⟨⟨hsurface ▸ hdrafted, hsurface ▸ hs.lines_eq, ?_⟩, _, hanswer, rfl, rfl⟩
    rw [List.nil_append, List.append_nil, List.append_assoc] at htext
    rw [List.flatMap_append, List.flatMap_singleton]
    exact htext

/-- A run that does not succeed leaves the file as it is, and there is no answer. -/
theorem Session.generate_of_fails (hs : Grown S drafted done s.surface)
    (hdone : ∀ c ∈ done, c.IsRead) (hc : Succeeds S drafted c = false) :
    (s.generate c true).session.surface = s.surface ∧ (s.generate c true).answer = .nothing := by
  rw [← succeeds_grown hdone, ← hs.drafted_eq] at hc
  exact generate_file_of_fails hs.readable hc

/-! ## Several runs -/

/-- The answer to a run: the package of the original text, or nothing. -/
def Answer.IsFor (S : Text) (drafted : Bool) (c : Config) (a : Answer) : Prop :=
  if Succeeds S drafted c then
    ∃ g, a = .generated g ∧ g.schema = Schema.ofText S ∧
      g.package = Package.ofSchema c.naming (Schema.ofText S)
  else a = .nothing

/-- Runs one after the other on a file that has not grown yet: each is answered, and then the file
    has the packages of the runs that have succeeded so far. -/
theorem Session.replies_grown (hs : Grown S drafted [] s.surface) (hcs : ∀ c ∈ cs, c.IsRead) :
    (s.replies (fun s c => s.generate c true) cs).length = cs.length ∧
      ∀ k c r, cs[k]? = some c → (s.replies (fun s c => s.generate c true) cs)[k]? = some r →
        Grown S drafted ((cs.take (k + 1)).filter (Succeeds S drafted)) r.session.surface ∧
          r.answer.IsFor S drafted c := by
  have hrun := Session.replies_keep_filter (s := s) (Succeeds S drafted)
    (fun done s => Grown S drafted done s.surface ∧ ∀ c ∈ done, c.IsRead)
    (fun c a => ∃ g, a = .generated g ∧ g.schema = Schema.ofText S ∧
      g.package = Package.ofSchema c.naming (Schema.ofText S))
    (fun c (hc : c ∈ cs) hsucceeds done s hs => by
      obtain ⟨hgrown, hanswer⟩ := generate_of_succeeds hs.1 hs.2 hsucceeds
      exact ⟨⟨hgrown, List.forall_mem_append.2 ⟨hs.2, List.forall_mem_singleton.2 (hcs c hc)⟩⟩,
        hanswer⟩)
    (fun c (_ : c ∈ cs) hfails done s hs => by
      obtain ⟨hsurface, hanswer⟩ := generate_of_fails hs.1 hs.2 hfails
      exact ⟨hsurface.symm ▸ hs, hanswer⟩)
    ⟨hs, fun _ h => nomatch h⟩
  refine ⟨hrun.1, fun k c r hc hr => ?_⟩
  obtain ⟨⟨hgrown, -⟩, hanswer⟩ := hrun.2 k c r hc hr
  exact ⟨hgrown, hanswer⟩

/-- Repeated runs on a whole file only append. A run succeeds if a package can be made of the text
    that the file had at first, and a draft of the file is taken. After each run the file is that
    text, with the packages of the runs that have succeeded so far behind it; each of
    them is the package of the first text, and the same table is still declared. -/
theorem generate_only_appends (hS : s.surface.text = .ok S) (hlines : s.surface.lines = {})
    (hcs : ∀ c ∈ cs, ∃ v, Config.check v = .ok c) :
    let replies := s.replies (fun s c => s.generate c true) cs
    let succeeds (c : Config) : Bool :=
      (Generated.build S c.naming c.validation.requireKey).isOk &&
        s.surface.files.takesDraft s.surface.path
    replies.length = cs.length ∧ ∀ k c r, cs[k]? = some c → replies[k]? = some r →
      let t := S ++ ((cs.take (k + 1)).filter succeeds).flatMap (appended S)
      r.session.surface.text = .ok t ∧ Schema.ofText t = Schema.ofText S ∧
        if succeeds c then
          ∃ g, r.answer = .generated g ∧ g.schema = Schema.ofText S ∧
            g.package = Package.ofSchema c.naming (Schema.ofText S)
        else r.answer = .nothing := by
  have hgrown : Grown S (s.surface.files.takesDraft s.surface.path) [] s.surface :=
    ⟨rfl, hlines, by rw [List.flatMap_nil, List.append_nil]; exact hS⟩
  obtain ⟨hlength, hreplies⟩ := Session.replies_grown hgrown hcs
  refine ⟨hlength, fun k c r hc hr => ?_⟩
  obtain ⟨⟨-, -, htext⟩, hanswer⟩ := hreplies k c r hc hr
  refine ⟨htext, ofText_append_right (seam_appended fun c hc => ?_), hanswer⟩
  exact hcs c (List.mem_of_mem_take (List.mem_filter.1 hc).1)

/-- How a small table is written, with some text behind its declarations. -/
def smallTable (u : Text) : Text :=
  "table_name(\"T\");" ++ ("table_attr(\"K\").primarykey;" ++ ("table_attr(\"C\");" ++ u))

/-- The package of a small table can be made. -/
theorem exists_build_smallTable {u : Text} (hu : '"' ∉ u) :
    ∃ g, Generated.build (smallTable u) {} true = .ok g := by
  have hT : WrittenTable "T" "table_name(\"T\");" :=
    .mk (@QuotedName.compact "table_name" "T" "table_name" (by decide) (by decide))
  have hK : WrittenColumn ⟨"K", true⟩ "table_attr(\"K\").primarykey;" :=
    .mk (@QuotedName.compact "table_attr" "K" "table_attr" (by decide) (by decide))
      (@WrittenMark.mark ".primarykey" [] (by decide) (by decide))
  have hC : WrittenColumn ⟨"C", false⟩ "table_attr(\"C\");" :=
    .mk (@QuotedName.compact "table_attr" "C" "table_attr" (by decide) (by decide)) .none
  have hcolumns := WrittenColumns.cons hK (u := []) List.not_mem_nil
    (WrittenColumns.cons hC (t := []) hu .nil)
  have hsmall := WrittenSchema.mk (b := []) (by decide) hT (u := []) List.not_mem_nil hcolumns
  simp only [List.nil_append, List.append_nil] at hsmall
  have hschema : opensWithTable (smallTable u) = true ∧ Schema.ofText (smallTable u) = _ :=
    hsmall.ofText_eq
  have hfault : (Schema.ofText (smallTable u)).fault? true = none := by
    rw [hschema.2]
    decide
  exact ⟨_, Generated.build_eq_ok_iff.2 ⟨hschema.1, hfault, rfl⟩⟩

theorem build_smallTable {u : Text} (hu : '"' ∉ u) :
    (Generated.build (smallTable u) {} true).isOk = true := by
  obtain ⟨g, hbuild⟩ := exists_build_smallTable hu
  rw [hbuild]
  rfl

/-- A package is put behind a text that ends in half a declaration, and put there again. -/
theorem generate_only_appends_twice :
    let S := smallTable "table_attr"
    let s : Session OpenFile :=
      ⟨⟨.single ['f'] (Utf8.encode S), ⟨[], [['f']]⟩, {}⟩, .recording {}, {}⟩
    s.surface.text = .ok S ∧ ∃ r, (s.replies (fun s c => s.generate c true) [{}, {}])[1]? = some r ∧
      r.session.surface.text = .ok (S ++ appended S {} ++ appended S {}) := by
  intro S s
  have htext : s.surface.text = .ok S :=
    OpenFile.text_eq_ok_iff.2 ⟨Utf8.encode S, rfl, Utf8.decode_encode S⟩
  have hread : ∀ c ∈ [({} : Config), {}], ∃ v, Config.check v = .ok c := fun c hc => by
    obtain rfl : c = {} := by simpa using hc
    exact ⟨.map [], rfl⟩
  have hsucceeds : Succeeds S (s.surface.files.takesDraft s.surface.path) {} = true := by
    rw [Succeeds, build_smallTable (by decide)]
    decide
  refine ⟨htext, _, rfl, ?_⟩
  have h := ((generate_only_appends htext rfl hread).2 1 {} _ rfl rfl).1
  change _ = Except.ok (S ++ ([({} : Config), {}].filter (Succeeds S
    (s.surface.files.takesDraft s.surface.path))).flatMap (appended S)) at h
  rw [List.filter_cons_of_pos hsucceeds, List.filter_cons_of_pos hsucceeds, List.filter_nil,
    List.flatMap_cons, List.flatMap_singleton, ← List.append_assoc] at h
  exact h

/-- A package can be made for a file whose name has 242 bytes, but the file cannot be replaced. -/
theorem not_appended_to_long_name :
    let S := smallTable []
    let name : Text := List.replicate 242 'n'
    let s : Session OpenFile :=
      ⟨⟨.single name (Utf8.encode S), ⟨[], [name]⟩, {}⟩, .recording {}, {}⟩
    s.surface.text = .ok S ∧ (Generated.build S {} true).isOk = true ∧
      (s.generate {} true).answer = .nothing ∧
      (s.generate {} true).session.surface.text = .ok S := by
  intro S name s
  obtain ⟨hread, hdrafted⟩ := Files.single_replicate (n := 242) (by decide) (Utf8.encode S)
  have htext : s.surface.text = .ok S :=
    OpenFile.text_eq_ok_iff.2 ⟨Utf8.encode S, hread, Utf8.decode_encode S⟩
  have hgrown : Grown S false [] s.surface :=
    ⟨hdrafted, rfl, by rw [List.flatMap_nil, List.append_nil]; exact htext⟩
  have hbuild : (Generated.build S {} true).isOk = true := build_smallTable List.not_mem_nil
  obtain ⟨hsurface, hanswer⟩ := Session.generate_of_fails (c := {}) hgrown (fun _ h => nomatch h)
    (Bool.and_false _)
  refine ⟨htext, hbuild, hanswer, ?_⟩
  rw [hsurface]
  exact htext

end TablePackage
