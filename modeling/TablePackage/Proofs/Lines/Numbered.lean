import TablePackage.Proofs.Insertion
import TablePackage.Proofs.Lists

/-!
# Numbered lines

How a text is cut into lines is said by a grammar (`Cut`): a line ends after each `\r\n`, each `\r`
without a `\n` behind it, and each `\n`; the last one may have no ending. There is exactly one way
to cut a text (`exists_cut`, `Cut.unique`). What a range selects is then said by the numbers of the
lines (`LineRange.numbered`), although it is found by slices of a list, and the ending is taken off
all the selected text, not off its last line: no cut parts a `\r` from a `\n` behind it, so that
no ending is ever made of two lines (`Cut.dropEnding_eq`).

* `Cut.ofText_eq`: the lines of a text are those into which it is cut;
* `Cut.infix`, `Cut.append`: some of the lines of a text, and lines in front of a text;
* `LineRange.FromOne.select_eq`: which lines a range selects;
* `selection_is_numbered_lines`: what is selected in a file by a range that has been read.
-/

namespace TablePackage

/-- A line: what stands on it, and its ending. -/
structure Line where
  body : Text
  ending : Text
  deriving DecidableEq

/-- A line with its ending. -/
def Line.text (l : Line) : Text := l.body ++ l.ending

namespace Lines

variable {b e s t u w x : Text} {l : Line} {ls ms : List Line}

/-! ## Cutting a text -/

/-- What may stand on a line. -/
def IsBody (w : Text) : Prop := '\r' ∉ w ∧ '\n' ∉ w

instance : Decidable (IsBody w) := inferInstanceAs (Decidable ('\r' ∉ w ∧ '\n' ∉ w))

/-- The endings of lines. -/
def endings : List Text := ["\r\n", "\r", "\n"]

/-- How a text is cut into lines. -/
inductive Cut : Text → List Line → Prop
  | nil : Cut [] []
  | unended {w : Text} : IsBody w → w ≠ [] → Cut w [⟨w, []⟩]
  /-- A `\r` is the ending of a line only if no `\n` follows. -/
  | ended {w e t : Text} {ls : List Line} : IsBody w → e ∈ endings →
    (e = ['\r'] → t.head? ≠ some '\n') → Cut t ls → Cut (w ++ (e ++ t)) (⟨w, e⟩ :: ls)

/-- Lines one after the other. -/
def whole (ls : List Line) : Text := ls.flatMap Line.text

theorem whole_append (ls ms : List Line) : whole (ls ++ ms) = whole ls ++ whole ms :=
  List.flatMap_append

theorem whole_cons (l : Line) (ls : List Line) : whole (l :: ls) = l.text ++ whole ls := rfl

/-- The lines of a text one after the other are the text. -/
theorem Cut.whole_eq (h : Cut t ls) : whole ls = t := by
  induction h with
  | nil => rfl
  | unended _ _ => simp [whole, Line.text]
  | ended _ _ _ _ ih => rw [whole_cons, ih, Line.text, List.append_assoc]

/-- No line is empty. -/
theorem Cut.text_ne_nil (h : Cut t ls) : ∀ l ∈ ls, l.text ≠ [] := by
  induction h with
  | nil => exact List.forall_mem_nil _
  | unended _ hne => exact List.forall_mem_singleton.2 (List.append_ne_nil_of_left_ne_nil hne [])
  | @ended w e t ls _ he _ _ ih =>
    have hne : e ≠ [] := by rintro rfl; exact absurd he (by decide)
    exact List.forall_mem_cons.2 ⟨List.append_ne_nil_of_right_ne_nil w hne, ih⟩

/-- Each line has a body, and an ending or none. -/
theorem Cut.isBody (h : Cut t ls) : ∀ l ∈ ls, IsBody l.body := by
  induction h with
  | nil => exact List.forall_mem_nil _
  | unended hw _ => exact List.forall_mem_singleton.2 hw
  | ended hw _ _ _ ih => exact List.forall_mem_cons.2 ⟨hw, ih⟩

/-! ## The lines of a text -/

/-- A character that ends no line starts a line, or goes on with the first one. -/
theorem ofText_cons {c : Char} (hr : c ≠ '\r') (hn : c ≠ '\n') (t : Text) :
    ofText (c :: t) = match ofText t with
      | [] => [[c]]
      | line :: lines => (c :: line) :: lines := by
  rw [ofText]
  · exact if_neg (not_or.2 ⟨hn, hr⟩)
  · rintro t' rfl
    exact absurd rfl hr

/-- A body in front of a text goes on with the first line of it. -/
theorem ofText_append {lines : List Text} (hw : IsBody w) (ht : ofText t = x :: lines) :
    ofText (w ++ t) = (w ++ x) :: lines := by
  induction w with
  | nil => exact ht
  | cons c w ih =>
    simp only [IsBody, List.mem_cons, not_or] at hw ih
    rw [List.cons_append, ofText_cons (Ne.symm hw.1.1) (Ne.symm hw.2.1), ih ⟨hw.1.2, hw.2.2⟩]
    rfl

/-- A body is one line, if there is anything. -/
theorem ofText_body (hw : IsBody w) (hne : w ≠ []) : ofText w = [w] := by
  obtain ⟨u, c, rfl⟩ := w.eq_nil_or_concat.resolve_left hne
  simp only [IsBody, List.concat_eq_append, List.mem_append, List.mem_singleton, not_or] at hw ⊢
  refine ofText_append ⟨hw.1.1, hw.2.1⟩ ?_
  rw [ofText_cons (Ne.symm hw.1.2) (Ne.symm hw.2.2)]
  rfl

/-- A line ends behind its ending. -/
theorem ofText_ending (he : e ∈ endings) (ht : e = ['\r'] → t.head? ≠ some '\n') :
    ofText (e ++ t) = e :: ofText t := by
  simp only [endings, List.mem_cons, List.not_mem_nil, or_false] at he
  rcases he with rfl | rfl | rfl
  · rfl
  · change ofText ('\r' :: t) = _
    rw [ofText, if_pos (.inr rfl)]
    · rfl
    · rintro t' _ rfl
      exact ht rfl rfl
  · change ofText ('\n' :: t) = _
    rw [ofText, if_pos (.inl rfl)]
    · rfl
    · rintro t' h
      cases h

/-- The lines of a text are those into which it is cut. -/
theorem Cut.ofText_eq (h : Cut t ls) : ofText t = ls.map Line.text := by
  induction h with
  | nil => rfl
  | unended hw hne => rw [ofText_body hw hne]; simp [Line.text]
  | ended hw he ht _ ih => rw [ofText_append hw (ofText_ending he ht), ih]; rfl

/-- A character in front of a text goes on with the first line of it. -/
theorem Cut.cons {c : Char} (hr : c ≠ '\r') (hn : c ≠ '\n') (h : Cut t ls) :
    ∃ ms, Cut (c :: t) ms := by
  have hbody : ∀ {w}, IsBody w → IsBody (c :: w) := fun hw => by
    simp only [IsBody, List.mem_cons, not_or]
    exact ⟨⟨hr.symm, hw.1⟩, hn.symm, hw.2⟩
  cases h with
  | nil => exact ⟨_, .unended (hbody ⟨List.not_mem_nil, List.not_mem_nil⟩) (List.cons_ne_nil c [])⟩
  | unended hw _ => exact ⟨_, .unended (hbody hw) (List.cons_ne_nil c _)⟩
  | ended hw he ht h => exact ⟨_, .ended (hbody hw) he ht h⟩

/-- Every text can be cut. -/
theorem exists_cut (t : Text) : ∃ ls, Cut t ls := by
  have hnone : IsBody [] := ⟨List.not_mem_nil, List.not_mem_nil⟩
  induction t using ofText.induct with
  | case1 => exact ⟨[], .nil⟩
  | case2 t ih =>
    obtain ⟨ls, h⟩ := ih
    exact ⟨_, .ended (e := ['\r', '\n']) hnone (by decide) (fun he => by cases he) h⟩
  | case3 c t hnext hc ih =>
    obtain ⟨ls, h⟩ := ih
    refine ⟨_, .ended (e := [c]) hnone ?_ (fun he hhead => ?_) h⟩
    · rcases hc with rfl | rfl <;> decide
    · obtain ⟨t', rfl⟩ := List.head?_eq_some_iff.1 hhead
      exact hnext t' (List.singleton_inj.1 he) rfl
  | case4 c t _ hc _ ih =>
    obtain ⟨ls, h⟩ := ih
    exact h.cons (not_or.1 hc).2 (not_or.1 hc).1
  | case5 c t _ hc _ _ _ ih =>
    obtain ⟨ls, h⟩ := ih
    exact h.cons (not_or.1 hc).2 (not_or.1 hc).1

/-! ## Some of the lines -/

/-- A piece of a text as a line: what stands in front of the first character that ends lines, and
    the rest. -/
def lineOf (x : Text) : Line :=
  ⟨x.takeWhile (fun c => c ≠ '\r' ∧ c ≠ '\n'), x.dropWhile (fun c => c ≠ '\r' ∧ c ≠ '\n')⟩

/-- Each line is found in its text. -/
theorem Cut.lineOf_text (h : Cut t ls) : ∀ l ∈ ls, lineOf l.text = l := by
  have hline : ∀ {w : Text}, IsBody w → ∀ e ∈ [] :: endings, lineOf (w ++ e) = ⟨w, e⟩ := by
    intro w hw e he
    have hkeep : ∀ c ∈ w, decide (c ≠ '\r' ∧ c ≠ '\n') = true := fun c hc =>
      decide_eq_true ⟨fun h => hw.1 (h ▸ hc), fun h => hw.2 (h ▸ hc)⟩
    have hend : ∀ e ∈ [] :: endings, lineOf e = ⟨[], e⟩ := by decide
    have hrest := hend e he
    rw [lineOf, Line.mk.injEq] at hrest ⊢
    rw [List.takeWhile_append_of_pos hkeep, List.dropWhile_append_of_pos hkeep, hrest.1, hrest.2,
      List.append_nil]
    exact ⟨rfl, rfl⟩
  induction h with
  | nil => exact List.forall_mem_nil _
  | unended hw _ => exact List.forall_mem_singleton.2 (hline hw [] List.mem_cons_self)
  | @ended w e t ls hw he _ _ ih =>
    exact List.forall_mem_cons.2 ⟨hline hw e (List.mem_cons_of_mem _ he), ih⟩

/-- There is only one way to cut a text. -/
theorem Cut.unique (h : Cut t ls) (h' : Cut t ms) : ls = ms := by
  have hlines : ∀ {ls}, Cut t ls → ls = (ofText t).map lineOf := fun {ls} h => by
    rw [h.ofText_eq, List.map_map]
    exact (List.map_id ls).symm.trans (List.map_congr_left fun l hl => (h.lineOf_text l hl).symm)
  exact (hlines h).trans (hlines h').symm

/-- A text of lines is cut where the lines are parted. -/
theorem Cut.of_append (h : Cut t (ls ++ ms)) : Cut (whole ls) ls ∧ Cut (whole ms) ms := by
  induction ls generalizing t with
  | nil => exact ⟨.nil, h.whole_eq ▸ h⟩
  | cons l ls ih =>
    rw [List.cons_append] at h
    generalize hks : ls ++ ms = ks at h
    cases h with
    | unended hw hne =>
      obtain ⟨rfl, rfl⟩ := List.append_eq_nil_iff.1 hks
      refine ⟨?_, .nil⟩
      simpa [whole, Line.text] using Cut.unended hw hne
    | @ended w e t _ hw he ht h =>
      subst hks
      obtain ⟨hls, hms⟩ := ih h
      refine ⟨?_, hms⟩
      rw [whole_cons, Line.text, List.append_assoc]
      refine .ended hw he (fun hr hn => ht hr ?_) hls
      -- What the first lines start with is what all of them start with.
      rw [← h.whole_eq, whole_append, List.head?_append, hn]
      rfl

/-- Some of the lines of a text, one after the other, are the lines of what they are together. -/
theorem Cut.infix (h : Cut t ls) (hms : ms <:+: ls) : Cut (whole ms) ms := by
  obtain ⟨us, vs, rfl⟩ := hms
  exact h.of_append.1.of_append.2

/-- A line that is not the last one has an ending. -/
theorem Cut.ending_mem (h : Cut t (ls ++ l :: ms)) : ∀ k ∈ ls, k.ending ∈ endings := by
  induction ls generalizing t with
  | nil => exact List.forall_mem_nil _
  | cons k ls ih =>
    rw [List.cons_append] at h
    generalize hks : ls ++ l :: ms = ks at h
    cases h with
    | unended _ _ =>
      exact absurd hks (List.append_ne_nil_of_right_ne_nil ls (List.cons_ne_nil l ms))
    | ended _ he _ h => exact List.forall_mem_cons.2 ⟨he, ih (hks ▸ h)⟩

/-- Lines that have an ending, but not only a `\r`, stay as they are in front of any text. -/
theorem Cut.append (h : Cut s ls) (hls : ∀ l ∈ ls, l.ending ≠ [] ∧ l.ending ≠ ['\r'])
    (ht : Cut t ms) : Cut (s ++ t) (ls ++ ms) := by
  induction h with
  | nil => exact ht
  | unended _ _ => exact absurd rfl (hls _ List.mem_cons_self).1
  | ended hw he _ _ ih =>
    obtain ⟨hline, hls⟩ := List.forall_mem_cons.1 hls
    rw [List.append_assoc, List.append_assoc]
    exact .ended hw he (fun hr => absurd hr hline.2) (ih hls)

/-! ## Without the last ending -/

/-- Lines one after the other, without the ending of the last one. -/
def withoutEnding : List Line → Text
  | [] => []
  | [l] => l.body
  | l :: ls => l.text ++ withoutEnding ls

/-- What goes from the end of a text is in its last two characters. -/
theorem dropEnding_append_pair (x : Text) (c d : Char) :
    dropEnding (x ++ [c, d]) = x ++ dropEnding [c, d] := by
  have hrev : (x ++ [c, d]).reverse = d :: c :: x.reverse := by simp
  have hpair : [c, d].reverse = [d, c] := rfl
  rw [dropEnding, dropEnding, hrev, hpair]
  by_cases hn : d = '\n'
  · subst hn
    by_cases hr : c = '\r'
    · subst hr; simp
    · simp [hr]
  · by_cases hr : d = '\r'
    · subst hr; simp
    · simp [hn, hr]

/-- The ending that goes is in the second of two texts, unless it is made of both. -/
theorem dropEnding_append (ht : t ≠ []) (hx : x.getLast? = some '\r' → t.head? ≠ some '\n') :
    dropEnding (x ++ t) = x ++ dropEnding t := by
  obtain ⟨u, d, rfl⟩ := t.eq_nil_or_concat.resolve_left ht
  rw [List.concat_eq_append] at hx ⊢
  obtain rfl | ⟨u, c, rfl⟩ := u.eq_nil_or_concat
  · obtain rfl | ⟨x, c, rfl⟩ := x.eq_nil_or_concat
    · rfl
    · have hpair : dropEnding [c, d] = c :: dropEnding [d] := by
        rw [List.concat_eq_append, List.getLast?_concat] at hx
        by_cases hn : d = '\n'
        · subst hn
          have hr : c ≠ '\r' := fun h => hx (congrArg some h) rfl
          simp [dropEnding, hr]
        · by_cases hr : d = '\r'
          · subst hr; rfl
          · simp [dropEnding, hn, hr]
      rw [List.concat_eq_append, List.nil_append, List.append_assoc, List.append_assoc,
        List.singleton_append, List.singleton_append, dropEnding_append_pair, hpair]
  · rw [List.concat_eq_append, List.append_assoc, List.singleton_append, dropEnding_append_pair,
      ← List.append_assoc, dropEnding_append_pair, List.append_assoc]

/-- What stands on a line stays as it is. -/
theorem dropEnding_body (hw : IsBody w) : dropEnding w = w := by
  obtain rfl | ⟨u, c, rfl⟩ := w.eq_nil_or_concat
  · rfl
  · rw [List.concat_eq_append] at hw ⊢
    simp only [IsBody, List.mem_append, List.mem_singleton, not_or] at hw
    have hc : dropEnding [c] = [c] := by simp [dropEnding, Ne.symm hw.1.2, Ne.symm hw.2.2]
    rw [dropEnding_append (List.cons_ne_nil c []), hc]
    exact fun h => absurd (List.mem_of_mem_getLast? h) hw.1.1

/-- The ending of a line goes, and nothing else of it. -/
theorem dropEnding_line (hw : IsBody w) (he : e ∈ endings) : dropEnding (w ++ e) = w := by
  have hdrop : ∀ e ∈ endings, dropEnding e = [] ∧ e ≠ [] := by decide
  rw [dropEnding_append (hdrop e he).2, (hdrop e he).1, List.append_nil]
  exact fun h => absurd (List.mem_of_mem_getLast? h) hw.1

/-- Of a text of lines, the ending of the last line goes: no ending is made of two lines. -/
theorem Cut.dropEnding_eq (h : Cut t ls) : dropEnding t = withoutEnding ls := by
  induction h with
  | nil => rfl
  | unended hw _ => exact dropEnding_body hw
  | @ended w e t ls hw he ht h ih =>
    cases ls with
    | nil =>
      obtain rfl : [] = t := h.whole_eq
      rw [List.append_nil]
      exact dropEnding_line hw he
    | cons l ls =>
      have hne : t ≠ [] := by
        rw [← h.whole_eq, whole_cons]
        exact List.append_ne_nil_of_left_ne_nil (h.text_ne_nil l List.mem_cons_self) _
      rw [← List.append_assoc, dropEnding_append hne, ih]
      · rfl
      · -- A `\r` at the end of the first line is all of its ending.
        have hsome : ∀ e ∈ endings, e.getLast?.isSome := by decide
        have hend : ∀ e ∈ endings, e.getLast? = some '\r' → e = ['\r'] := by decide
        intro hlast
        rw [List.getLast?_append, Option.or_of_isSome (hsome e he)] at hlast
        exact ht (hend e he hlast)

end Lines

/-! ## Lines by their numbers -/

namespace LineRange

variable {r : LineRange} {s t : Text} {ls : List Line}

/-- Whether the line with a number is in a range. -/
def Covers (r : LineRange) (i : Nat) : Bool :=
  r.first.all (· ≤ (i : Int)) && r.last.all ((i : Int) ≤ ·)

/-- The lines whose numbers are in a range, counted from one. -/
def numbered (r : LineRange) (ls : List Line) : List Line :=
  ((ls.zipIdx 1).filter fun l => r.Covers l.2).map (·.1)

/-- Whether the numbers of a range are at least one. -/
structure FromOne (r : LineRange) : Prop where
  first : ∀ a, r.first = some a → 1 ≤ a
  last : ∀ b, r.last = some b → 1 ≤ b

/-- Nothing is wrong with a range whose numbers are at least one and in order. -/
theorem flaw?_eq_none_iff :
    r.flaw? = none ↔ r.FromOne ∧ ∀ a b, r.first = some a → r.last = some b → a ≤ b := by
  have hfromOne : (r.first.any (· < 1) || r.last.any (· < 1)) = false ↔ r.FromOne := by
    rw [Bool.or_eq_false_iff, Option.any_eq_false, Option.any_eq_false]
    simp only [decide_eq_false_iff_not, Int.not_lt]
    exact ⟨fun h => ⟨h.1, h.2⟩, fun h => ⟨h.first, h.last⟩⟩
  rw [← hfromOne, flaw?]
  split
  · rename_i hbelow
    simp [hbelow]
  · rename_i hbelow
    rw [Bool.not_eq_true] at hbelow
    simp only [hbelow, true_and]
    split
    · rename_i a b hfirst hlast
      rw [hfirst, hlast]
      by_cases hlt : b < a
      · simp [hlt]
      · simp [hlt, Int.not_lt.1 hlt]
    · rename_i hopen
      simpa using fun a b ha hb => absurd hb (hopen a b ha)

/-- The numbers of a range that has been read are at least one. -/
theorem fromOne_of_ofText (h : ofText s = .ok r) : r.FromOne := by
  have hflaw : r.flaw? = none := by
    unfold ofText at h
    split at h
    · cases h
    · split at h
      · split at h
        · cases h; assumption
        · cases h
      · cases h
  exact (flaw?_eq_none_iff.1 hflaw).1

/-- The lines whose numbers are in a range are those that are sliced out. -/
theorem FromOne.slice_eq (hr : r.FromOne) (ls : List Line) :
    slice ls (some (max (r.first.getD 1 - 1) 0)) r.last = r.numbered ls := by
  obtain ⟨lo, hlo, hbefore⟩ : ∃ lo : Nat, max (r.first.getD 1 - 1) 0 = (lo : Int) ∧
      ∀ i : Nat, 1 ≤ i → r.first.all (· ≤ (i : Int)) = decide (lo + 1 ≤ i) := by
    cases hfirst : r.first with
    | none => exact ⟨0, rfl, fun i hi => (decide_eq_true hi).symm⟩
    | some a =>
      have ha := hr.first a hfirst
      refine ⟨(a - 1).toNat, ?_, fun i _ => ?_⟩
      · rw [Option.getD_some]; omega
      · exact decide_eq_decide.2 (by omega)
  obtain ⟨hi, hhi, hbehind⟩ : ∃ hi : Nat,
      (∀ start, slice ls start r.last = slice ls start (some (hi : Int))) ∧
      ∀ i : Nat, i ≤ ls.length → r.last.all ((i : Int) ≤ ·) = decide (i ≤ hi) := by
    cases hlast : r.last with
    | none => exact ⟨ls.length, slice_none ls, fun i hi => (decide_eq_true hi).symm⟩
    | some b =>
      have hb := hr.last b hlast
      refine ⟨b.toNat, fun start => ?_, fun i _ => decide_eq_decide.2 (by omega)⟩
      rw [Int.toNat_of_nonneg (by omega)]
  have hcovers : (ls.zipIdx 1).filter (fun l => r.Covers l.2) =
      (ls.zipIdx 1).filter fun l => decide (lo + 1 ≤ l.2) && decide (l.2 ≤ hi) := by
    refine List.filter_congr fun l hl => ?_
    obtain ⟨hle, hlt, -⟩ := List.mem_zipIdx hl
    rw [Covers, hbefore l.2 hle, hbehind l.2 (by omega)]
  rw [numbered, hcovers, Lists.map_filter_zipIdx, hlo, hhi, slice_natCast]
  rfl

/-- What a range selects are the lines with the numbers in it. If the range has an end, the ending
    of the last line is left out. -/
theorem FromOne.select_eq (hr : r.FromOne) (h : Lines.Cut t ls) :
    r.select t = if r = {} then t
      else if r.last = none then Lines.whole (r.numbered ls)
      else Lines.withoutEnding (r.numbered ls) := by
  have hnumbered := hr.slice_eq ls
  have hcut : Lines.Cut (Lines.whole (r.numbered ls)) (r.numbered ls) :=
    h.infix (hnumbered ▸ slice_infix ls _ _)
  have hselected : (slice (Lines.ofText t) (some (max (r.first.getD 1 - 1) 0)) r.last).flatten =
      Lines.whole (r.numbered ls) := by
    rw [h.ofText_eq, slice_map, hnumbered]
    exact List.flatMap_def.symm
  have hopen : (r.first = none ∧ r.last = none) ↔ r = {} := (mk.injEq _ _ none none).symm.to_iff
  unfold select Lines.range
  by_cases hnone : r.first = none ∧ r.last = none
  · rw [if_pos hnone, if_pos (hopen.1 hnone)]
  · rw [if_neg hnone, if_neg (mt hopen.2 hnone)]
    dsimp only
    rw [hselected, hcut.dropEnding_eq]
    cases r.last <;> rfl

/-- Nothing is selected behind the last line. -/
theorem numbered_eq_nil {a : Int} (ha : r.first = some a) (hlt : ls.length < a) :
    r.numbered ls = [] := by
  refine List.map_eq_nil_iff.2 (List.filter_eq_nil_iff.2 fun l hl => ?_)
  obtain ⟨-, hlt', -⟩ := List.mem_zipIdx hl
  rw [Covers, ha, Option.all_some, decide_eq_false (by omega), Bool.false_and]
  exact Bool.false_ne_true

end LineRange

/-- What is selected in a file by a range that has been read. The text is cut into lines in the
    only way there is. Without numbers, all of it is selected; otherwise the lines whose numbers are
    in the range, with their endings, of which the last one is left out if the range has an end. A
    missing number is the first respectively the last one, and behind the last line there is
    nothing. -/
theorem selection_is_numbered_lines {f : OpenFile} {s t : Text}
    (hr : LineRange.ofText s = .ok f.lines) (ht : f.text = .ok t) :
    ∃ ls, Lines.Cut t ls ∧ (∀ ms, Lines.Cut t ms → ms = ls) ∧ Lines.whole ls = t ∧
      (∀ l ∈ ls, l.text ≠ []) ∧
      Surface.selection f = .ok (if f.lines = {} then t
        else if f.lines.last = none then Lines.whole (f.lines.numbered ls)
        else Lines.withoutEnding (f.lines.numbered ls)) ∧
      ∀ a, f.lines.first = some a → ls.length < a → Surface.selection f = .ok [] := by
  obtain ⟨ls, h⟩ := Lines.exists_cut t
  have hselection := (OpenFile.readable ht).selection_eq
  rw [(LineRange.fromOne_of_ofText hr).select_eq h] at hselection
  refine ⟨ls, h, fun ms hms => hms.unique h, h.whole_eq, h.text_ne_nil, hselection, ?_⟩
  intro a ha hlt
  have hne : f.lines ≠ {} := by
    intro heq
    rw [heq] at ha
    cases ha
  rw [hselection, if_neg hne, LineRange.numbered_eq_nil ha hlt]
  split <;> rfl

/-- Lines with all kinds of endings: the range goes from an empty line to one whose ending has two
    characters. -/
theorem selection_is_numbered_lines_mixed :
    let t : Text := "a\r\n\n\rb\r\nc"
    let f : OpenFile := ⟨.single ['f'] (Utf8.encode t), ⟨[], [['f']]⟩, ⟨some 2, some 4⟩⟩
    LineRange.ofText "2:4" = .ok f.lines ∧ f.text = .ok t ∧
      Surface.selection f = .ok ("\n\rb" : Text) := by
  intro t f
  have hr : LineRange.ofText "2:4" = .ok f.lines := by decide +kernel
  have ht : f.text = .ok t := OpenFile.text_eq_ok_iff.2 ⟨Utf8.encode t, rfl, Utf8.decode_encode t⟩
  obtain ⟨ls, -, hunique, -, -, hselection, -⟩ := selection_is_numbered_lines hr ht
  have hc : Lines.Cut "c" [⟨"c", []⟩] := .unended (by decide) (by decide)
  have hb := Lines.Cut.ended (w := "b") (e := "\r\n") (by decide) (by decide) (by decide) hc
  have hr' := Lines.Cut.ended (w := []) (e := "\r") (by decide) (by decide) (by decide) hb
  have hn := Lines.Cut.ended (w := []) (e := "\n") (by decide) (by decide) (by decide) hr'
  have ha := Lines.Cut.ended (w := "a") (e := "\r\n") (by decide) (by decide) (by decide) hn
  rw [← hunique _ ha] at hselection
  exact ⟨hr, ht, hselection⟩

end TablePackage
