import TablePackage.Proofs.Lines.Numbered
import TablePackage.Proofs.Repetition

/-!
# Repeated generation for lines

The command may also be run again and again on some lines of a file. The numbers of the lines stay
as they are, and each run cuts the grown file anew and searches it for the text of these lines.
Neither can go wrong: what a run inserts starts with a line ending, which ends the last of the
selected lines where it has ended before, and all lines before it are kept if none of them ends
in a lone `\r`.

The invariant is `GrownOnLines`. It rests on what the lines are at first (`LineRange.Holds`): their
range selects a text where it occurs for the first time, and still does if anything that starts with
a line ending stands behind it.

* `Lines.Cut.holds`: lines that hold their text;
* `Session.generate_on_lines_of_succeeds`, `Session.generate_on_lines_of_fails`: one run;
* `generate_keeps_lines`: repeated runs on lines of a file.
-/

namespace TablePackage

/-! ## Lines that hold their text -/

/-- The range selects the text `S` between `u` and `v`, where it occurs for the first time, and it
    also does if something that starts with a line ending stands behind it instead of `v`. -/
structure LineRange.Holds (r : LineRange) (S u v : Text) : Prop where
  firstAt : Text.FirstAt S (u ++ S ++ v) u v
  select_eq : r.select (u ++ S ++ v) = S
  select_grown : ∀ w, r.select (u ++ S ++ '\n' :: w) = S

namespace Lines

variable {t w : Text} {ls ms ks : List Line} {l : Line}

/-- The last ending is left out of the last lines. -/
theorem withoutEnding_append (hms : ms ≠ []) (ls : List Line) :
    withoutEnding (ls ++ ms) = whole ls ++ withoutEnding ms := by
  induction ls with
  | nil => rfl
  | cons l ls ih =>
    obtain ⟨k, ks, hks⟩ := List.exists_cons_of_ne_nil (List.append_ne_nil_of_right_ne_nil ls hms)
    rw [List.cons_append, whole_cons, List.append_assoc, ← ih, hks]
    rfl

/-- The range of the lines `ms`, which stand behind `ls`. -/
def rangeOf (ls ms : List Line) : LineRange :=
  ⟨some (ls.length + 1 : Nat), some (ls.length + ms.length : Nat)⟩

theorem fromOne_rangeOf (hms : ms ≠ []) (ls : List Line) : (rangeOf ls ms).FromOne := by
  have hpos := List.length_pos_iff.2 hms
  constructor
  · rintro a ⟨⟩; omega
  · rintro b ⟨⟩; omega

/-- Lines have the numbers that are in their range. -/
theorem numbered_rangeOf (hms : ms ≠ []) (ls ks : List Line) :
    (rangeOf ls ms).numbered (ls ++ (ms ++ ks)) = ms := by
  have hstart : max (((ls.length + 1 : Nat) : Int) - 1) 0 = (ls.length : Int) := by omega
  rw [← (fromOne_rangeOf hms ls).slice_eq, rangeOf, Option.getD_some, hstart, slice_append]

/-- Lines are selected by their range. -/
theorem Cut.select_rangeOf (h : Cut t (ls ++ (ms ++ ks))) (hms : ms ≠ []) :
    (rangeOf ls ms).select t = withoutEnding ms := by
  rw [(fromOne_rangeOf hms ls).select_eq h, numbered_rangeOf hms, if_neg (by rintro ⟨⟩),
    if_neg (by rintro ⟨⟩)]

/-- The lines `ls` and what stands on the line `l` are kept if something that starts with a line
    ending is put behind them. -/
theorem Cut.grow (h : Cut t (ls ++ l :: ks)) (hls : ∀ k ∈ ls, k.ending ≠ ['\r']) (w : Text) :
    ∃ ms, Cut (whole ls ++ l.body ++ '\n' :: w) (ls ++ ⟨l.body, ['\n']⟩ :: ms) := by
  obtain ⟨ms, hms⟩ := exists_cut w
  have hbody : IsBody l.body := h.isBody l (List.mem_append_right ls List.mem_cons_self)
  have hended : ∀ k ∈ ls, k.ending ≠ [] ∧ k.ending ≠ ['\r'] := fun k hk =>
    ⟨fun hnil => absurd (hnil ▸ h.ending_mem k hk) (by decide), hls k hk⟩
  refine ⟨ms, ?_⟩
  rw [List.append_assoc]
  exact h.of_append.1.append hended
    (.ended (e := ['\n']) hbody (by decide) (fun he => by cases he) hms)

/-- Lines hold their text, if no line up to them ends in a lone `\r`. -/
theorem Cut.holds (h : Cut t (ls ++ (ms ++ ks))) (hms : ms ≠ [])
    (hendings : ∀ k ∈ ls ++ ms, k.ending ≠ ['\r'])
    (hfirst : ∀ u' v', t = u' ++ withoutEnding ms ++ v' → (whole ls).length ≤ u'.length) :
    ∃ v, t = whole ls ++ withoutEnding ms ++ v ∧
      (rangeOf ls ms).Holds (withoutEnding ms) (whole ls) v := by
  obtain ⟨qs, l, rfl⟩ := ms.eq_nil_or_concat.resolve_left hms
  rw [List.concat_eq_append] at *
  have hbody : ∀ k : Line, withoutEnding (qs ++ [k]) = whole qs ++ k.body := fun k =>
    withoutEnding_append (List.cons_ne_nil k []) qs
  have ht : t = whole ls ++ withoutEnding (qs ++ [l]) ++ (l.ending ++ whole ks) := by
    rw [← h.whole_eq, hbody, whole_append, whole_append, whole_append, whole_cons, Line.text]
    simp only [List.append_assoc]
    rfl
  refine ⟨_, ht, ⟨rfl, ht ▸ hfirst⟩, ht ▸ h.select_rangeOf hms, fun w => ?_⟩
  -- What is put behind the text becomes the ending of the last line, and lines behind it.
  have hline : Cut t (ls ++ qs ++ l :: ks) := by
    simpa only [List.append_assoc, List.singleton_append] using h
  obtain ⟨ps, hgrown⟩ := hline.grow (fun k hk => hendings k (by
    rw [← List.append_assoc]; exact List.mem_append_left [l] hk)) w
  have hgrown' : Cut (whole ls ++ withoutEnding (qs ++ [l]) ++ '\n' :: w)
      (ls ++ (qs ++ [⟨l.body, ['\n']⟩] ++ ps)) := by
    simpa only [hbody, whole_append, List.append_assoc, List.singleton_append] using hgrown
  have hrange : rangeOf ls (qs ++ [l]) = rangeOf ls (qs ++ [⟨l.body, ['\n']⟩]) := by
    simp only [rangeOf, List.length_append, List.length_singleton]
  have hne : qs ++ [⟨l.body, ['\n']⟩] ≠ [] :=
    List.append_ne_nil_of_right_ne_nil qs (List.cons_ne_nil _ [])
  rw [hrange, hgrown'.select_rangeOf hne, hbody, hbody]

/-- The lines between two numbers hold their text. -/
theorem Cut.holds_numbered {a b : Nat} (h : Cut t ls) (hendings : ∀ l ∈ ls, l.ending ≠ ['\r'])
    (ha : 1 ≤ a) (hab : a ≤ b) (hb : b ≤ ls.length)
    (hfirst : ∀ u v, t = u ++ withoutEnding (LineRange.numbered ⟨some a, some b⟩ ls) ++ v →
      (whole (ls.take (a - 1))).length ≤ u.length) :
    ∃ v, t = whole (ls.take (a - 1)) ++
        withoutEnding (LineRange.numbered ⟨some a, some b⟩ ls) ++ v ∧
      LineRange.Holds ⟨some a, some b⟩ (withoutEnding (LineRange.numbered ⟨some a, some b⟩ ls))
        (whole (ls.take (a - 1))) v := by
  obtain ⟨ks, ms, ps, rfl, hks, hms⟩ : ∃ ks ms ps, ls = ks ++ (ms ++ ps) ∧ ks.length + 1 = a ∧
      ks.length + ms.length = b := by
    refine ⟨ls.take (a - 1), (ls.take b).drop (a - 1), ls.drop b, ?_, ?_, ?_⟩
    · rw [← List.append_assoc, ← Nat.min_eq_left (by omega : a - 1 ≤ b), ← List.take_take,
        Nat.min_eq_left (by omega : a - 1 ≤ b), List.take_append_drop, List.take_append_drop]
    · rw [List.length_take]; omega
    · rw [List.length_take, List.length_drop, List.length_take]; omega
  have hne : ms ≠ [] := List.length_pos_iff.1 (by omega)
  have hrange : (⟨some (a : Int), some (b : Int)⟩ : LineRange) = rangeOf ks ms := by
    rw [rangeOf, hks, hms]
  have hbefore : (ks ++ (ms ++ ps)).take (a - 1) = ks := by
    rw [← hks, Nat.add_sub_cancel, List.take_left]
  rw [hrange, numbered_rangeOf hne, hbefore] at hfirst ⊢
  refine h.holds hne (fun k hk => hendings k ?_) hfirst
  rw [← List.append_assoc]
  exact List.mem_append_left ps hk

end Lines

/-! ## One run -/

/-- A file has the text `S` between `u` and `v`, where it is held by the range of lines that is
    selected. Between `S` and `v` stands what runs with the configurations `cs` have inserted, and
    `drafted` says whether a draft of the file is taken. -/
structure GrownOnLines (r : LineRange) (S u v : Text) (drafted : Bool) (cs : List Config)
    (f : OpenFile) : Prop where
  drafted_eq : f.files.takesDraft f.path = drafted
  lines_eq : f.lines = r
  text_eq : f.text = .ok (u ++ S ++ (cs.reverse.flatMap (appended S) ++ v))

variable {r : LineRange} {S u v : Text} {drafted : Bool} {c : Config} {done : List Config}

/-- The text of lines stays selected when runs have inserted something behind it. -/
theorem LineRange.Holds.select_grown_eq (h : r.Holds S u v) (cs : List Config) :
    r.select (u ++ S ++ (cs.flatMap (appended S) ++ v)) = S := by
  cases cs with
  | nil => exact h.select_eq
  | cons c cs =>
    rw [List.flatMap_cons, List.append_assoc (appended S c)]
    -- An insertion starts with a line ending.
    exact h.select_grown _

/-- The lines of a file that has grown are still selected. -/
theorem GrownOnLines.readable {f : OpenFile} (h : GrownOnLines r S u v drafted done f)
    (hr : r.Holds S u v) :
    Surface.Readable f (u ++ S ++ (done.reverse.flatMap (appended S) ++ v)) S := by
  have hread := OpenFile.readable h.text_eq
  rwa [h.lines_eq, hr.select_grown_eq] at hread

variable {s : Session OpenFile}

/-- A run that succeeds puts its package right behind the text of the lines, before those that the
    runs before it have put there. -/
theorem Session.generate_on_lines_of_succeeds (hs : GrownOnLines r S u v drafted done s.surface)
    (hr : r.Holds S u v) (hc : Succeeds S drafted c = true) :
    GrownOnLines r S u v drafted (done ++ [c]) (s.generate c true).session.surface ∧
      ∃ g, (s.generate c true).answer = .generated g ∧ g.selection = S ∧
        g.schema = Schema.ofText S ∧ g.package = Package.ofSchema c.naming (Schema.ofText S) := by
  rw [← hs.drafted_eq] at hc
  -- The occurrence that the lines have held before is found in the grown document.
  obtain ⟨g, files, hbuild, hanswer, hsurface, hdrafts, htext⟩ := generate_file_of_succeeds
    (hs.readable hr) (hr.firstAt.append (done.reverse.flatMap (appended S) ++ v)) hc
  obtain ⟨-, -, rfl⟩ := Generated.build_eq_ok_iff.1 hbuild
  have hdrafted := hdrafts.trans hs.drafted_eq
  refine ⟨⟨hsurface ▸ hdrafted, hsurface ▸ hs.lines_eq, ?_⟩, _, hanswer, rfl, rfl, rfl⟩
  rw [List.reverse_append, List.reverse_singleton, List.flatMap_append, List.flatMap_singleton,
    List.append_assoc (appended S c), ← List.append_assoc (u ++ S)]
  exact htext

/-- A run that does not succeed leaves the file as it is, and there is no answer. -/
theorem Session.generate_on_lines_of_fails (hs : GrownOnLines r S u v drafted done s.surface)
    (hr : r.Holds S u v) (hc : Succeeds S drafted c = false) :
    (s.generate c true).session.surface = s.surface ∧ (s.generate c true).answer = .nothing := by
  rw [← hs.drafted_eq] at hc
  exact generate_file_of_fails (hs.readable hr) hc

/-! ## Several runs -/

/-- Repeated runs keep the lines that are selected. The file is cut into lines, none of which ends
    in a lone `\r`, and the range is that of some of its lines. Let `S` be their text, without the
    last ending, and `u` the text of the lines before them, and let `S` not occur before its place.
    After each of the runs, the same range selects `S`, and between it and what has followed it at
    first stand the packages of the runs that have succeeded so far, the latest one first. A run
    succeeds if a package can be made of `S`, and a draft of the file is taken. -/
theorem generate_keeps_lines {t : Text} {ls : List Line} {a b : Nat}
    (ht : s.surface.text = .ok t) (hcut : Lines.Cut t ls) (hendings : ∀ l ∈ ls, l.ending ≠ ['\r'])
    (ha : 1 ≤ a) (hab : a ≤ b) (hb : b ≤ ls.length) (hlines : s.surface.lines = ⟨some a, some b⟩)
    (hfirst : ∀ u v, t = u ++ Lines.withoutEnding (s.surface.lines.numbered ls) ++ v →
      (Lines.whole (ls.take (a - 1))).length ≤ u.length) :
    let u := Lines.whole (ls.take (a - 1))
    let S := Lines.withoutEnding (s.surface.lines.numbered ls)
    Surface.selection s.surface = .ok S ∧ ∃ v : Text, t = u ++ S ++ v ∧ ∀ cs : List Config,
      let replies := s.replies (fun s c => s.generate c true) cs
      let succeeds (c : Config) : Bool :=
        (Generated.build S c.naming c.validation.requireKey).isOk &&
          s.surface.files.takesDraft s.surface.path
      replies.length = cs.length ∧ ∀ (k : Nat) c r, cs[k]? = some c → replies[k]? = some r →
        r.session.surface.lines = s.surface.lines ∧
        Surface.selection r.session.surface = .ok S ∧
        r.session.surface.text =
          .ok (u ++ S ++ ((cs.take (k + 1)).filter succeeds).reverse.flatMap (appended S) ++ v) ∧
        if succeeds c then
          ∃ g, r.answer = .generated g ∧ g.selection = S ∧ g.schema = Schema.ofText S ∧
            g.package = Package.ofSchema c.naming (Schema.ofText S)
        else r.answer = .nothing := by
  intro u S
  have hheld := hcut.holds_numbered hendings ha hab hb (hlines ▸ hfirst)
  rw [← hlines] at hheld
  obtain ⟨v, rfl, hholds⟩ := hheld
  have hgrown : GrownOnLines s.surface.lines S u v
      (s.surface.files.takesDraft s.surface.path) [] s.surface := ⟨rfl, rfl, ht⟩
  refine ⟨(hgrown.readable hholds).selection_eq, v, rfl, fun cs => ?_⟩
  have hrun := Session.replies_keep_filter (s := s)
    (Succeeds S (s.surface.files.takesDraft s.surface.path))
    (fun done f => GrownOnLines s.surface.lines S u v
      (s.surface.files.takesDraft s.surface.path) done f.surface)
    (fun c a => ∃ g, a = .generated g ∧ g.selection = S ∧ g.schema = Schema.ofText S ∧
      g.package = Package.ofSchema c.naming (Schema.ofText S))
    (fun c (_ : c ∈ cs) hc _ _ hs => Session.generate_on_lines_of_succeeds hs hholds hc)
    (fun c (_ : c ∈ cs) hc _ _ hs => by
      obtain ⟨hsurface, hanswer⟩ := Session.generate_on_lines_of_fails hs hholds hc
      exact ⟨hsurface.symm ▸ hs, hanswer⟩)
    hgrown
  refine ⟨hrun.1, fun k c r hc hr => ?_⟩
  obtain ⟨hs, hanswer⟩ := hrun.2 k c r hc hr
  refine ⟨hs.lines_eq, (hs.readable hholds).selection_eq, ?_, hanswer⟩
  rw [List.append_assoc (u ++ S)]
  exact hs.text_eq

/-- The second of three lines with endings of two characters is selected, and each of two packages
    is put between it and its ending. -/
theorem generate_keeps_lines_twice :
    let S := smallTable []
    let t : Text := "--\r\n" ++ S ++ "\r\n--"
    let s : Session OpenFile :=
      ⟨⟨.single ['f'] (Utf8.encode t), ⟨[], [['f']]⟩, ⟨some 2, some 2⟩⟩, .recording {}, {}⟩
    s.surface.text = .ok t ∧ ∃ r, (s.replies (fun s c => s.generate c true) [{}, {}])[1]? = some r ∧
      Surface.selection r.session.surface = .ok S ∧
      r.session.surface.text =
        .ok ("--\r\n" ++ S ++ (appended S {} ++ appended S {}) ++ "\r\n--") := by
  intro S t s
  have ht : s.surface.text = .ok t :=
    OpenFile.text_eq_ok_iff.2 ⟨Utf8.encode t, rfl, Utf8.decode_encode t⟩
  have hlast : Lines.Cut "--" [⟨"--", []⟩] := .unended (by decide) (by decide)
  have hsecond := Lines.Cut.ended (w := S) (e := "\r\n") (by decide) (by decide) (by decide) hlast
  have hcut : Lines.Cut t ([⟨"--", "\r\n"⟩] ++ ([⟨S, "\r\n"⟩] ++ [⟨"--", []⟩])) :=
    Lines.Cut.ended (w := "--") (e := "\r\n") (by decide) (by decide) (by decide) hsecond
  have hS := congrArg Lines.withoutEnding (Lines.numbered_rangeOf
    (List.cons_ne_nil (⟨S, "\r\n"⟩ : Line) []) [⟨"--", "\r\n"⟩] [⟨"--", []⟩])
  change Lines.withoutEnding (s.surface.lines.numbered _) = S at hS
  have hfirst : Text.FirstAt S t "--\r\n" "\r\n--" := Text.cut?_eq_some_iff.1 (by decide +kernel)
  have hkeeps := generate_keeps_lines (a := 2) (b := 2) ht hcut (by decide) (by decide)
    (by decide) (by decide) rfl (by rw [hS]; exact hfirst.first)
  rw [hS] at hkeeps
  obtain ⟨-, v, hv, hruns⟩ := hkeeps
  obtain rfl : ("\r\n--" : Text) = v :=
    List.append_cancel_left (hfirst.eq_append.symm.trans hv)
  have hsucceeds : Succeeds S (s.surface.files.takesDraft s.surface.path) {} = true := by
    rw [Succeeds, build_smallTable List.not_mem_nil]
    decide
  obtain ⟨-, hselection, htext, -⟩ := (hruns [{}, {}]).2 1 {} _ rfl rfl
  refine ⟨ht, _, rfl, hselection, htext.trans ?_⟩
  change Except.ok ("--\r\n" ++ S ++ ([({} : Config), {}].filter (Succeeds S
    (s.surface.files.takesDraft s.surface.path))).reverse.flatMap (appended S) ++ "\r\n--") = _
  rw [List.filter_cons_of_pos hsucceeds, List.filter_cons_of_pos hsucceeds, List.filter_nil,
    List.reverse_cons, List.reverse_singleton, List.singleton_append, List.flatMap_cons,
    List.flatMap_singleton]

end TablePackage
