import TablePackage.Proofs.Repetition
import TablePackage.Proofs.Session

/-!
# Repeated generation for a selection

The command may also be run again and again on a selected part of a buffer. The offsets of the
selection stay as they are, and each run searches the grown document anew for the selected text.
Both lead to the same place: what a run inserts stands behind the first occurrence of the selected
text, and neither moves it nor makes an earlier one, even if the text overlaps itself or occurs in
the package that is made of it (`Text.FirstAt.append`).

The invariant is `Selected`: the first occurrence of the text is selected, and the packages of
all successful runs stand right behind it, the latest one first.

* `Selected.selection_eq`: what the buffer gives as its selection;
* `Session.generate_of_buildable`, `Session.generate_of_not_buildable`: one run on such a buffer;
* `generate_keeps_selection`: repeated runs on a selection.
-/

namespace TablePackage

/-- The text `S` is selected where it occurs for the first time, behind `u`. Between this occurrence
    and `v` stands what runs with the configurations `cs` have inserted. -/
structure Selected (S u v : Text) (cs : List Config) (b : Buffer) : Prop where
  firstAt : Text.FirstAt S b.text u (cs.reverse.flatMap (appended S) ++ v)
  start_eq : b.start = some (u.length : Int)
  stop_eq : b.stop = some ((u.length + S.length : Nat) : Int)
  refuses_eq : b.refuses = false

/-- Whether a package can be made of the text `S` under a configuration. -/
def Buildable (S : Text) (c : Config) : Bool :=
  (Generated.build S c.naming c.validation.requireKey).isOk

variable {S t u v : Text} {c : Config} {done : List Config} {b : Buffer}

/-- The offsets of a selection lie around the selected text. -/
theorem Selected.selection_eq (h : Selected S u v done b) : b.selection = S := by
  rw [Buffer.selection, h.firstAt.eq_append, h.start_eq, h.stop_eq, List.append_assoc,
    slice_append]

/-- A text that is selected in a buffer is selected where it occurs for the first time. -/
theorem Buffer.selected_of_firstAt (h : Text.FirstAt S t u v) :
    ∃ b, Buffer.selecting? t S = some b ∧ b.text = t ∧ Selected S u v [] b := by
  refine ⟨_, by rw [Buffer.selecting?, Text.cut?_eq_some_iff.2 h]; rfl, rfl, ?_⟩
  exact ⟨h, rfl, congrArg some (Int.natCast_add u.length S.length).symm, rfl⟩

/-! ## One run -/

variable {s : Session Buffer}

/-- A run that succeeds puts its package right behind the selected text, before those that the runs
    before it have put there. -/
theorem Session.generate_of_buildable (hs : Selected S u v done s.surface)
    (hc : Buildable S c = true) :
    Selected S u v (done ++ [c]) (s.generate c true).session.surface ∧
      ∃ g, (s.generate c true).answer = .generated g ∧ g.selection = S ∧
        g.schema = Schema.ofText S ∧ g.package = Package.ofSchema c.naming (Schema.ofText S) := by
  cases hbuild : Generated.build S c.naming c.validation.requireKey with
  | error fault =>
    rw [Buildable, hbuild] at hc
    cases hc
  | ok g =>
    obtain ⟨-, -, rfl⟩ := Generated.build_eq_ok_iff.1 hbuild
    have hexpand := Generated.expandIn_eq
      (g := Generated.ofSchema S c.naming (Schema.ofText S)) hs.firstAt
    have hrun := Run.generate_of_replaced (n := s.notifier)
      (congrArg Except.ok hs.selection_eq) rfl hbuild (Buffer.replaceAll_eq_ok hs.refuses_eq _)
    rw [Session.generate_eq_afterRun hrun]
    refine ⟨⟨?_, hs.start_eq, hs.stop_eq, hs.refuses_eq⟩, _, rfl, rfl, rfl, rfl⟩
    -- The occurrence that has been found before stays the first one behind the insertion.
    have hfirst := hs.firstAt.append (appended S c ++ (done.reverse.flatMap (appended S) ++ v))
    rw [← List.append_assoc] at hfirst
    rw [List.reverse_append, List.reverse_singleton, List.flatMap_append, List.flatMap_singleton,
      List.append_assoc]
    exact hexpand ▸ hfirst

/-- A run that does not succeed leaves the buffer as it is, and there is no answer. -/
theorem Session.generate_of_not_buildable (hs : Selected S u v done s.surface)
    (hc : Buildable S c = false) :
    Selected S u v done (s.generate c true).session.surface ∧
      (s.generate c true).answer = .nothing := by
  cases hbuild : Generated.build S c.naming c.validation.requireKey with
  | error fault =>
    rw [Session.generate_eq_afterRun (Run.generate_of_fault (n := s.notifier)
      (congrArg Except.ok hs.selection_eq) hbuild)]
    exact ⟨hs, rfl⟩
  | ok g =>
    rw [Buildable, hbuild] at hc
    cases hc

/-! ## Several runs -/

/-- Repeated runs keep what is selected. If a text `S` is selected in a document, it is selected
    where it occurs for the first time, between `u` and `v`. After each of the runs, `S` is still
    what is selected, and between it and `v` stand the packages of the runs that have succeeded so
    far, the latest one first. Each of them is the package of `S`, and whether a run succeeds does
    not depend on the document or on the runs before it. -/
theorem generate_keeps_selection (hS : S <:+: t) :
    ∃ u v b, Text.FirstAt S t u v ∧ Buffer.selecting? t S = some b ∧ b.text = t ∧
      b.selection = S ∧ ∀ (notifier : Notifier) (config : Config) (cs : List Config),
        let replies := Session.replies (fun s c => s.generate c true) ⟨b, notifier, config⟩ cs
        let succeeds (c : Config) : Bool :=
          (Generated.build S c.naming c.validation.requireKey).isOk
        replies.length = cs.length ∧ ∀ k c r, cs[k]? = some c → replies[k]? = some r →
          r.session.surface.selection = S ∧
          r.session.surface.text =
            u ++ S ++ ((cs.take (k + 1)).filter succeeds).reverse.flatMap (appended S) ++ v ∧
          if succeeds c then
            ∃ g, r.answer = .generated g ∧ g.selection = S ∧ g.schema = Schema.ofText S ∧
              g.package = Package.ofSchema c.naming (Schema.ofText S)
          else r.answer = .nothing := by
  obtain ⟨u, v, hfirst⟩ := Text.exists_firstAt hS
  obtain ⟨b, hb, htext, hselected⟩ := Buffer.selected_of_firstAt hfirst
  refine ⟨u, v, b, hfirst, hb, htext, hselected.selection_eq, fun notifier config cs => ?_⟩
  have hrun := Session.replies_keep_filter (s := ⟨b, notifier, config⟩) (Buildable S)
    (fun done s => Selected S u v done s.surface)
    (fun c a => ∃ g, a = .generated g ∧ g.selection = S ∧ g.schema = Schema.ofText S ∧
      g.package = Package.ofSchema c.naming (Schema.ofText S))
    (fun c (_ : c ∈ cs) hc _ _ hs => Session.generate_of_buildable hs hc)
    (fun c (_ : c ∈ cs) hc _ _ hs => Session.generate_of_not_buildable hs hc)
    hselected
  refine ⟨hrun.1, fun k c r hc hr => ?_⟩
  obtain ⟨hs, hanswer⟩ := hrun.2 k c r hc hr
  refine ⟨hs.selection_eq, ?_, hanswer⟩
  rw [List.append_assoc]
  exact hs.firstAt.eq_append

/-- The first of two equal tables is selected, and each of two packages is put right behind it. -/
theorem generate_keeps_selection_twice :
    let S := smallTable []
    let t : Text := "--" ++ S ++ S
    let replies (b : Buffer) :=
      Session.replies (fun s c => s.generate c true) ⟨b, .recording {}, {}⟩ [{}, {}]
    S <:+: t ∧ ∃ b r, Buffer.selecting? t S = some b ∧ (replies b)[1]? = some r ∧
      r.session.surface.selection = S ∧
      r.session.surface.text = "--" ++ S ++ (appended S {} ++ appended S {}) ++ S := by
  intro S t replies
  have hS : S <:+: t := ⟨"--", S, rfl⟩
  obtain ⟨u, v, b, hfirst, hb, -, -, hruns⟩ := generate_keeps_selection hS
  obtain ⟨rfl, rfl⟩ : u = "--" ∧ v = S := by
    have hcut : Text.cut? S t = some (("--" : Text), S) := by decide +kernel
    exact hfirst.unique (Text.cut?_eq_some_iff.1 hcut)
  have hbuild : (Generated.build S {} true).isOk = true := build_smallTable List.not_mem_nil
  have hsucceeds : [({} : Config), {}].filter (fun c =>
      (Generated.build S c.naming c.validation.requireKey).isOk) = [{}, {}] := by
    refine List.filter_eq_self.2 fun c hc => ?_
    obtain rfl : c = {} := by simpa using hc
    exact hbuild
  obtain ⟨hselection, htext, -⟩ := (hruns (.recording {}) {} [{}, {}]).2 1 {} _ rfl rfl
  refine ⟨hS, b, _, hb, rfl, hselection, ?_⟩
  rw [List.take_of_length_le (Nat.le_refl 2), hsucceeds] at htext
  simpa only [List.reverse_cons, List.reverse_nil, List.nil_append, List.cons_append,
    List.flatMap_cons, List.flatMap_nil, List.append_nil] using htext

end TablePackage
