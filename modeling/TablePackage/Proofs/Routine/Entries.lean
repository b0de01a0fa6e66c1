import TablePackage.Proofs.Routine.Grammar

/-!
# Lists of parameters

How a list of parameters may be written in any text, and that it is read back as it was written.
An entry is a name, a mode and the words of a type, with any blanks between them; entries are
separated by commas, and blank ones do not count.

The mode is one word or two, or none at all, and the words around it may look like a mode
themselves. So the first word of the type must not be one with which the mode could go on
(`WrittenMode`); everything else may be any word, even a name that is `IN`.

* `Spaced.wordsBy_eq`: the words of an entry;
* `WrittenMode.splitMode_eq`: the mode in front of a type;
* `entries_read_as_written`: all parameters of a list.
-/

namespace TablePackage.Routine

variable {b e k t w : Text} {es ws : List Text} {m : Mode} {q : Parameter} {qs : List Parameter}

/-! ## Written entries -/

/-- Blanks of any script, of which there may be none. -/
def IsBlankText (b : Text) : Prop := ∀ c ∈ b, Unicode.isBlank c = true

instance : Decidable (IsBlankText b) :=
  inferInstanceAs (Decidable (∀ c ∈ b, Unicode.isBlank c = true))

instance : Decidable (IsSpace b) :=
  inferInstanceAs (Decidable (b ≠ [] ∧ ∀ c ∈ b, Unicode.isBlank c = true))

/-- A word in a list of parameters. -/
structure IsEntryWord (w : Text) : Prop where
  ne_nil : w ≠ []
  isBlank_eq_false : ∀ c ∈ w, Unicode.isBlank c = false
  comma_not_mem : ',' ∉ w

instance : Decidable (IsEntryWord w) :=
  decidable_of_iff (w ≠ [] ∧ (∀ c ∈ w, Unicode.isBlank c = false) ∧ ',' ∉ w)
    ⟨fun ⟨hne, hblank, hcomma⟩ => ⟨hne, hblank, hcomma⟩,
      fun ⟨hne, hblank, hcomma⟩ => ⟨hne, hblank, hcomma⟩⟩

/-- Words with a space between two of them. -/
inductive Spaced : List Text → Text → Prop
  | last (w : Text) : Spaced [w] w
  | cons {w v b t : Text} {ws : List Text} :
    IsSpace b → Spaced (v :: ws) t → Spaced (w :: v :: ws) (w ++ (b ++ t))

/-- The words that a mode is written with, in front of a type that starts with the word `first`.
    They are in any letter case; the mode `IN` may be left out. -/
inductive WrittenMode (first : Text) : Mode → List Text → Prop
  | input {w : Text} : isWordOf "IN" w = true → isWordOf "OUT" first = false →
    WrittenMode first .input [w]
  | leftOut : isWordOf "IN" first = false → isWordOf "OUT" first = false →
    WrittenMode first .input []
  | output {w : Text} : isWordOf "OUT" w = true → WrittenMode first .output [w]
  | inputOutput {w w' : Text} : isWordOf "IN" w = true → isWordOf "OUT" w' = true →
    WrittenMode first .inputOutput [w, w']

/-- An entry for a parameter: its name, its mode and the words of its type, with spaces between
    them and blanks around. -/
inductive WrittenEntry : Parameter → Text → Prop
  | mk {name first before t after : Text} {mode : Mode} {words rest : List Text} :
    IsEntryWord name → (∀ w ∈ first :: rest, IsEntryWord w) → WrittenMode first mode words →
    IsBlankText before → Spaced (name :: (words ++ first :: rest)) t → IsBlankText after →
    WrittenEntry ⟨name, mode, Text.join " " (first :: rest)⟩ (before ++ (t ++ after))

/-- Entries for parameters, with blank ones among them. -/
inductive WrittenEntries : List Parameter → List Text → Prop
  | nil : WrittenEntries [] []
  | blank {e : Text} {qs : List Parameter} {es : List Text} :
    IsBlankText e → WrittenEntries qs es → WrittenEntries qs (e :: es)
  | entry {e : Text} {q : Parameter} {qs : List Parameter} {es : List Text} :
    WrittenEntry q e → WrittenEntries qs es → WrittenEntries (q :: qs) (e :: es)

/-! ## Words -/

theorem IsBlankText.comma_not_mem (h : IsBlankText b) : ',' ∉ b := fun hmem =>
  absurd (h _ hmem) (by decide)

theorem IsBlankText.wordsBy_eq_nil (h : IsBlankText b) :
    Text.wordsBy Unicode.isBlank b = [] := by
  rw [← List.append_nil b, wordsBy_space h]
  rfl

/-- Blanks have no upper case of a letter. -/
theorem isBlank_eq_false_of_upper {c : Char} (h : upper c ∈ ("INOUT" : Text)) :
    Unicode.isBlank c = false ∧ c ≠ ',' := by
  refine ⟨?_, fun hc => absurd (hc ▸ h) (by decide)⟩
  by_contra hblank
  have hpoints : ∀ n ∈ Unicode.blankPoints, upper (Char.ofNat n) ∉ ("INOUT" : Text) := by
    decide +kernel
  have hmem := hpoints c.toNat (Unicode.mem_blankPoints (by simpa using hblank))
  rw [Char.ofNat_toNat] at hmem
  exact hmem h

/-- What stands for `IN` or `OUT` is a word. -/
theorem isEntryWord_of_isWordOf (hk : k = "IN" ∨ k = "OUT") (h : isWordOf k w = true) :
    IsEntryWord w := by
  have hupper : w.map upper = k := by simpa [isWordOf] using h
  have hchar : ∀ c ∈ w, Unicode.isBlank c = false ∧ c ≠ ',' := by
    intro c hc
    have hmem : upper c ∈ k := hupper ▸ List.mem_map_of_mem hc
    refine isBlank_eq_false_of_upper ?_
    rcases hk with rfl | rfl
    · exact (by decide : ∀ d ∈ ("IN" : Text), d ∈ ("INOUT" : Text)) _ hmem
    · exact (by decide : ∀ d ∈ ("OUT" : Text), d ∈ ("INOUT" : Text)) _ hmem
  refine ⟨?_, fun c hc => (hchar c hc).1, fun hmem => (hchar _ hmem).2 rfl⟩
  rintro rfl
  rcases hk with rfl | rfl <;> cases hupper

/-- The words of a mode are words. -/
theorem WrittenMode.isEntryWord {first : Text} (h : WrittenMode first m ws) :
    ∀ w ∈ ws, IsEntryWord w := by
  cases h with
  | input hin _ => exact List.forall_mem_singleton.2 (isEntryWord_of_isWordOf (.inl rfl) hin)
  | leftOut _ _ => exact List.forall_mem_nil _
  | output hout => exact List.forall_mem_singleton.2 (isEntryWord_of_isWordOf (.inr rfl) hout)
  | inputOutput hin hout =>
    exact List.forall_mem_cons.2 ⟨isEntryWord_of_isWordOf (.inl rfl) hin,
      List.forall_mem_singleton.2 (isEntryWord_of_isWordOf (.inr rfl) hout)⟩

/-- Words with spaces between them are read one after the other, with blanks behind them. -/
theorem Spaced.wordsBy_eq (h : Spaced ws t) (hws : ∀ w ∈ ws, IsEntryWord w)
    (hb : IsBlankText b) : Text.wordsBy Unicode.isBlank (t ++ b) = ws := by
  induction h with
  | last w =>
    have hw := hws w List.mem_cons_self
    rw [wordsBy_append hw.ne_nil hw.isBlank_eq_false
      fun c hc => hb c (List.mem_of_mem_head? hc), hb.wordsBy_eq_nil]
  | @cons w v s t ws hs _ ih =>
    obtain ⟨hw, hrest⟩ := List.forall_mem_cons.1 hws
    have hblank : ∀ c ∈ (s ++ (t ++ b)).head?, Unicode.isBlank c = true := by
      obtain ⟨c, s, rfl⟩ := List.exists_cons_of_ne_nil hs.1
      exact Text.forall_head?_cons (hs.2 c List.mem_cons_self) _
    rw [List.append_assoc, List.append_assoc,
      wordsBy_append hw.ne_nil hw.isBlank_eq_false hblank, wordsBy_space hs.2, ih hrest]

/-- There is no comma among words with spaces between them. -/
theorem Spaced.comma_not_mem (h : Spaced ws t) (hws : ∀ w ∈ ws, IsEntryWord w) : ',' ∉ t := by
  induction h with
  | last w => exact (hws w List.mem_cons_self).comma_not_mem
  | cons hb _ ih =>
    obtain ⟨hw, hrest⟩ := List.forall_mem_cons.1 hws
    simp only [List.mem_append, not_or]
    exact ⟨hw.comma_not_mem, IsBlankText.comma_not_mem hb.2, ih hrest⟩

/-! ## Entries -/

/-- A mode is taken off in front of a type, with which it cannot go on. -/
theorem WrittenMode.splitMode_eq {first : Text} (h : WrittenMode first m ws) (rest : List Text) :
    splitMode (ws ++ first :: rest) = (m, first :: rest) := by
  -- A word stands for one mode at most.
  have hne : ∀ {w}, isWordOf "OUT" w = true → isWordOf "IN" w = false := by
    intro w hout
    rw [isWordOf, decide_eq_true_iff] at hout
    rw [isWordOf, hout]
    decide
  cases h with
  | input hin hfirst => simp only [List.singleton_append, splitMode, hin, hfirst]; rfl
  | leftOut hin hout => simp only [List.nil_append, splitMode, hin, hout]; rfl
  | output hout => simp only [List.singleton_append, splitMode, hne hout, hout]; rfl
  | inputOutput hin hout => simp only [List.cons_append, splitMode, hin, hout]; rfl

/-- An entry is read as the parameter that it is for. -/
theorem WrittenEntry.parameter?_eq (h : WrittenEntry q e) : parameter? e = some q := by
  obtain ⟨hname, htype, hmode, hbefore, hspaced, hafter⟩ := h
  have hwords := List.forall_mem_cons.2
    ⟨hname, List.forall_mem_append.2 ⟨hmode.isEntryWord, htype⟩⟩
  rw [parameter?, wordsBy_space hbefore, hspaced.wordsBy_eq hwords hafter]
  dsimp only
  rw [hmode.splitMode_eq]
  rfl

theorem WrittenEntry.comma_not_mem (h : WrittenEntry q e) : ',' ∉ e := by
  obtain ⟨hname, htype, hmode, hbefore, hspaced, hafter⟩ := h
  have hwords := List.forall_mem_cons.2
    ⟨hname, List.forall_mem_append.2 ⟨hmode.isEntryWord, htype⟩⟩
  simp only [List.mem_append, not_or]
  exact ⟨hbefore.comma_not_mem, hspaced.comma_not_mem hwords, hafter.comma_not_mem⟩

/-- A blank entry is for no parameter. -/
theorem IsBlankText.parameter?_eq (h : IsBlankText e) : parameter? e = none := by
  rw [parameter?, h.wordsBy_eq_nil]

/-! ## Lists -/

theorem WrittenEntries.filterMap_eq (h : WrittenEntries qs es) : es.filterMap parameter? = qs := by
  induction h with
  | nil => rfl
  | blank he _ ih => rw [List.filterMap_cons_none he.parameter?_eq, ih]
  | entry he _ ih => rw [List.filterMap_cons_some he.parameter?_eq, ih]

theorem WrittenEntries.comma_not_mem (h : WrittenEntries qs es) : ∀ e ∈ es, ',' ∉ e := by
  induction h with
  | nil => exact List.forall_mem_nil _
  | blank he _ ih => exact List.forall_mem_cons.2 ⟨he.comma_not_mem, ih⟩
  | entry he _ ih => exact List.forall_mem_cons.2 ⟨he.comma_not_mem, ih⟩

/-- Parameters are read as they are written, with commas between their entries. -/
theorem entries_read_as_written (h : WrittenEntries qs es) :
    parametersOf (Text.join "," es) = qs := by
  rw [← h.filterMap_eq, parametersOf]
  cases es with
  | nil => rfl
  | cons e es =>
    exact congrArg _ (List.splitOn_intercalate ',' h.comma_not_mem (List.cons_ne_nil e es))

/-- A parameter called `IN`, one with the type `IN OUT`, and one without a mode; there are blanks
    beyond ASCII, and a dotless i. -/
theorem entries_read_as_written_modes :
    let es : List Text := [" IN\u2003oUt  NUMBER", "\t", "X ın OUT IN OUT ", "", "Y T.A%TYPE"]
    let qs : List Parameter := [⟨"IN", .output, "NUMBER"⟩, ⟨"X", .inputOutput, "IN OUT"⟩,
      ⟨"Y", .input, "T.A%TYPE"⟩]
    WrittenEntries qs es ∧ parametersOf (Text.join "," es) = qs := by
  have hIN : WrittenEntry ⟨"IN", .output, "NUMBER"⟩ " IN\u2003oUt  NUMBER" :=
    @WrittenEntry.mk "IN" "NUMBER" " " _ [] _ ["oUt"] [] (by decide) (by decide)
      (.output (by decide)) (by decide)
      (.cons (b := "\u2003") (by decide) (.cons (b := "  ") (by decide) (.last _))) (by decide)
  have hX : WrittenEntry ⟨"X", .inputOutput, "IN OUT"⟩ "X ın OUT IN OUT " :=
    @WrittenEntry.mk "X" "IN" [] _ " " _ ["ın", "OUT"] ["OUT"] (by decide) (by decide)
      (.inputOutput (by decide) (by decide)) (by decide)
      (.cons (b := " ") (by decide) (.cons (b := " ") (by decide) (.cons (b := " ") (by decide)
        (.cons (b := " ") (by decide) (.last _))))) (by decide)
  have hY : WrittenEntry ⟨"Y", .input, "T.A%TYPE"⟩ "Y T.A%TYPE" :=
    @WrittenEntry.mk "Y" "T.A%TYPE" [] _ [] _ [] [] (by decide) (by decide)
      (.leftOut (by decide) (by decide)) (by decide)
      (.cons (b := " ") (by decide) (.last _)) (by decide)
  intro es qs
  have hwritten : WrittenEntries qs es :=
    .entry hIN (.blank (by decide) (.entry hX (.blank (by decide) (.entry hY .nil))))
  exact ⟨hwritten, entries_read_as_written hwritten⟩

end TablePackage.Routine
