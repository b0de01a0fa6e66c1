import TablePackage.Proofs.Declaration.Grammar

/-!
# Interleaved scans

Several scans may go on at the same time, each of them advanced by one declaration when it is its
turn. A cursor remembers all that its scan needs: behind the first `k` declarations of a text, what
is left to scan is the scan of the text without these (`Resumes`). Advances of other cursors leave
it where it is, and at the end of its text it stays there.

* `Cursor.head?_scan`, `Cursor.scan_advanced`: one advance of a cursor;
* `Resumes.advance`: what one advance keeps of all cursors;
* `Resumes.interleave`: what is found by a whole schedule of advances;
* `interleaved_scans_are_whole`: each scan finds what it would find alone.
-/

namespace TablePackage

variable {cursors : List Cursor} {i n : Nat} {past schedule : List Nat} {t : Text} {ts : List Text}

/-! ## One cursor -/

namespace Cursor

/-- The cursor behind the next declaration; it stays where it is if there is none. -/
def advanced (c : Cursor) : Cursor := (c.next?.map (·.2)).getD c

/-- The next declaration is the first one of those ahead. -/
theorem head?_scan (c : Cursor) : c.scan.head? = c.next?.map (·.1) := by
  cases h : c.next? with
  | none => rw [Declaration.scan_of_next?_eq_none h]; rfl
  | some found => rw [Declaration.scan_of_next?_eq_some h]; rfl

/-- Behind it, the other ones are ahead. -/
theorem scan_advanced (c : Cursor) : c.advanced.scan = c.scan.tail := by
  unfold advanced
  cases h : c.next? with
  | none => rw [Option.map_none, Option.getD_none, Declaration.scan_of_next?_eq_none h]; rfl
  | some found => rw [Declaration.scan_of_next?_eq_some h]; rfl

end Cursor

namespace Declaration

/-! ## All cursors -/

/-- One advance finds the next declaration of its cursor, and leaves the other cursors alone. -/
theorem interleave_cons (cursors : List Cursor) (i : Nat) (schedule : List Nat) :
    interleave cursors (i :: schedule) = (cursors[i]?.bind Cursor.next?).map (·.1) ::
      interleave (cursors.modify i Cursor.advanced) schedule := by
  rw [interleave, List.modify_eq_set_getElem?]
  cases hc : cursors[i]? with
  | none => rfl
  | some c =>
    rw [Option.bind_some]
    cases hnext : c.next? with
    | none =>
      obtain ⟨hi, rfl⟩ := List.getElem?_eq_some_iff.1 hc
      have hadvanced : cursors[i].advanced = cursors[i] := by rw [Cursor.advanced, hnext]; rfl
      have hset : cursors.set i cursors[i] = cursors := List.set_getElem_self hi
      dsimp only
      rw [Option.map_none, Option.map_eq_map, Option.map_some, Option.getD_some, hadvanced, hset]
    | some found =>
      have hadvanced : c.advanced = found.2 := by rw [Cursor.advanced, hnext]; rfl
      dsimp only
      rw [Option.map_some, Option.map_eq_map, Option.map_some, Option.getD_some, hadvanced]

/-- Each cursor has come as far in its text as the advances in `past` have named it: ahead of it are
    the declarations behind those that it has found. -/
def Resumes (ts : List Text) (past : List Nat) (cursors : List Cursor) : Prop :=
  ∀ i t, ts[i]? = some t → ∃ c, cursors[i]? = some c ∧ c.scan = (scan t).drop (past.count i)

theorem resumes_ofText (ts : List Text) : Resumes ts [] (ts.map Cursor.ofText) := by
  intro i t ht
  refine ⟨.ofText t, ?_, rfl⟩
  rw [List.getElem?_map, ht]
  rfl

/-- After one more advance, the cursors have come as far as it says. -/
theorem Resumes.advance (h : Resumes ts past cursors) (i : Nat) :
    Resumes ts (past ++ [i]) (cursors.modify i Cursor.advanced) := by
  intro j t ht
  obtain ⟨c, hc, hscan⟩ := h j t ht
  rw [List.count_append]
  by_cases hij : i = j
  · subst hij
    refine ⟨c.advanced, by rw [List.getElem?_modify_eq, hc]; rfl, ?_⟩
    rw [Cursor.scan_advanced, hscan, List.tail_drop, List.count_singleton_self]
  · refine ⟨c, by rw [List.getElem?_modify_ne _ _ hij, hc], ?_⟩
    rw [hscan, List.count_singleton, if_neg (by simpa using hij), Nat.add_zero]

/-- An advance finds the first declaration behind those that its cursor has found. -/
theorem Resumes.next?_eq (h : Resumes ts past cursors) (ht : ts[i]? = some t) :
    (cursors[i]?.bind Cursor.next?).map (·.1) = (scan t)[past.count i]? := by
  obtain ⟨c, hc, hscan⟩ := h i t ht
  rw [hc, Option.bind_some, ← Cursor.head?_scan, hscan, List.head?_drop]

/-- In a schedule, each advance finds the first declaration behind those that its cursor has found,
    before the schedule and in it. -/
theorem Resumes.interleave (h : Resumes ts past cursors) (hn : schedule[n]? = some i)
    (ht : ts[i]? = some t) : (Declaration.interleave cursors schedule)[n]? =
      some ((scan t)[(past ++ schedule.take n).count i]?) := by
  -- Along the schedule: each advance is moved to the past before the next one is taken.
  induction schedule generalizing past cursors n with
  | nil => cases hn
  | cons j schedule ih =>
    rw [interleave_cons]
    cases n with
    | zero =>
      obtain rfl : j = i := Option.some.inj hn
      rw [List.getElem?_cons_zero, h.next?_eq ht, List.take_zero, List.append_nil]
    | succ n =>
      rw [List.getElem?_cons_succ, ih (h.advance j) hn, List.take_succ_cons, List.append_assoc,
        List.singleton_append]

theorem length_interleave (cursors : List Cursor) (schedule : List Nat) :
    (interleave cursors schedule).length = schedule.length := by
  induction schedule generalizing cursors with
  | nil => rfl
  | cons i schedule ih => rw [interleave_cons, List.length_cons, List.length_cons, ih]

/-! ## Schedules -/

/-- The advance number `n` of a schedule is the advance number `k` of the cursor `i`; both numbers
    are counted from zero. -/
structure IsAdvance (schedule : List Nat) (i k n : Nat) : Prop where
  getElem?_eq : schedule[n]? = some i
  count_eq : (schedule.take n).count i = k

/-- Each advance of a schedule has an answer. Whatever the other scans do, the advance number `k`
    of a scan finds the declaration number `k` of its text, and nothing if the text has no more than
    `k` of them. -/
theorem interleaved_scans_are_whole (ts : List Text) (schedule : List Nat) :
    let answers := interleave (ts.map Cursor.ofText) schedule
    answers.length = schedule.length ∧
    ∀ i t, ts[i]? = some t → ∀ k n, IsAdvance schedule i k n →
      (∀ m, (scan t)[k]? = some m → answers[n]? = some (some m)) ∧
      ((scan t).length ≤ k → answers[n]? = some none) := by
  intro answers
  refine ⟨length_interleave _ schedule, ?_⟩
  rintro i t ht k n ⟨hn, rfl⟩
  have hanswer := (resumes_ofText ts).interleave hn ht
  rw [List.nil_append] at hanswer
  refine ⟨fun m hm => hm ▸ hanswer, fun hk => ?_⟩
  rw [List.getElem?_eq_none hk] at hanswer
  exact hanswer

/-- Two scans of one text, and one of an empty text: the first scan is advanced once more than there
    are declarations. -/
theorem interleaved_scans_are_whole_twice :
    let t : Text := "table_attr(\"A\"); table_attr(\"B\").primarykey;"
    let schedule := [0, 1, 0, 2, 1, 0]
    let answers := interleave ([t, t, ""].map Cursor.ofText) schedule
    let m : ColumnMatch := ⟨⟨"B", true⟩, 17, 44, "table_attr(\"B\").primarykey;"⟩
    IsAdvance schedule 0 1 2 ∧ IsAdvance schedule 0 2 5 ∧ (scan t)[1]? = some m ∧
      answers[2]? = some (some m) ∧ answers[5]? = some none := by
  intro t schedule answers m
  have hscan : scan t = [⟨⟨"A", false⟩, 0, 16, "table_attr(\"A\");"⟩, m] := by decide +kernel
  have hsecond : IsAdvance schedule 0 1 2 := ⟨rfl, rfl⟩
  have hthird : IsAdvance schedule 0 2 5 := ⟨rfl, rfl⟩
  have hm : (scan t)[1]? = some m := by rw [hscan]; rfl
  have hlength : (scan t).length ≤ 2 := by rw [hscan]; decide
  obtain ⟨-, hanswers⟩ := interleaved_scans_are_whole [t, t, ""] schedule
  exact ⟨hsecond, hthird, hm, (hanswers 0 t rfl 1 2 hsecond).1 m hm,
    (hanswers 0 t rfl 2 5 hthird).2 hlength⟩

end Declaration

end TablePackage
