import TablePackage.Package
import TablePackage.Proofs.Lists
import TablePackage.Proofs.Routine.Inert

/-!
# Parameters of procedures

How the parameters of a procedure are written, each with the column whose type it has, and what is
read there.

* `parametersOf_join`: the parameters are read as they are written;
* `inert_inside`: no header and no end is read among them.
-/

namespace TablePackage.Routine

open Ascii

variable {follow : Text → Option Text} {T b e s t : Text} {c : Char} {q : Parameter}
  {qs : List Parameter} {ts : List Text}

/-- How an input parameter with the type of a column of the table `T` is written. -/
structure WrittenParameter (T : Text) (q : Parameter) (t : Text) : Prop where
  name : IsName q.name
  mode : q.mode = .input
  type : ∃ column, Letters column ∧ q.type = T ++ "." ++ column ++ "%TYPE"
  text : t = Procedure.statementIndent ++ (q.name ++ (" IN " ++ q.type))

/-- The type of a parameter has word characters, points and percent signs. -/
theorem WrittenParameter.mem_type (h : WrittenParameter T q t) (hT : Letters T)
    (hc : c ∈ q.type) : Ascii.isWord c = true ∨ c = '.' ∨ c = '%' := by
  obtain ⟨column, hcolumn, htype⟩ := h.type
  rw [htype] at hc
  rcases List.mem_append.1 hc with hc | hc
  · rcases List.mem_append.1 hc with hc | hc
    · rcases List.mem_append.1 hc with hc | hc
      · exact .inl (hT c hc)
      · exact .inr (.inl (List.mem_singleton.1 hc))
    · exact .inl (hcolumn c hc)
  · have hlast : ∀ d ∈ ("%TYPE" : Text), Ascii.isWord d = true ∨ d = '.' ∨ d = '%' := by decide
    exact hlast c hc

/-- The type of a parameter is a word without blanks, and not `OUT`. -/
theorem WrittenParameter.type_word (h : WrittenParameter T q t) (hT : Letters T) :
    q.type ≠ [] ∧ (∀ c ∈ q.type, Unicode.isBlank c = false) ∧ isWordOf "OUT" q.type = false := by
  refine ⟨?_, fun c hc => ?_, ?_⟩
  · obtain ⟨column, _, htype⟩ := h.type
    rw [htype]
    simp
  · rcases h.mem_type hT hc with hc | rfl | rfl
    · exact Unicode.isBlank_of_isWord hc
    · rfl
    · rfl
  · obtain ⟨column, _, htype⟩ := h.type
    rw [isWordOf, decide_eq_false_iff_not]
    intro hout
    have hlength := congrArg List.length hout
    rw [List.length_map, htype] at hlength
    simp at hlength
    omega

/-- A written parameter has blanks, word characters, points and percent signs. -/
theorem WrittenParameter.mem (h : WrittenParameter T q t) (hT : Letters T) (hc : c ∈ t) :
    Unicode.isBlank c = true ∨ Ascii.isWord c = true ∨ c = '.' ∨ c = '%' := by
  rw [h.text] at hc
  rcases List.mem_append.1 hc with hc | hc
  · have hindent : ∀ d ∈ Procedure.statementIndent, Unicode.isBlank d = true := by decide
    exact .inl (hindent c hc)
  rcases List.mem_append.1 hc with hc | hc
  · exact .inr (.inl (h.name.2 c hc))
  rcases List.mem_append.1 hc with hc | hc
  · have hin : ∀ d ∈ (" IN " : Text), Unicode.isBlank d = true ∨ Ascii.isWord d = true ∨
        d = '.' ∨ d = '%' := by decide
    exact hin c hc
  · exact .inr (h.mem_type hT hc)

/-- A written parameter has three words. -/
theorem WrittenParameter.words (h : WrittenParameter T q t) (hT : Letters T)
    (hb : Blanks b) (he : Blanks e) :
    Text.wordsBy Unicode.isBlank (b ++ (t ++ e)) = [q.name, "IN", q.type] := by
  obtain ⟨hne, htype, _⟩ := h.type_word hT
  have hname : ∀ c ∈ q.name, Unicode.isBlank c = false := fun c hc =>
    Unicode.isBlank_of_isWord (h.name.2 c hc)
  have hend : Text.wordsBy Unicode.isBlank e = [] := by
    rw [← List.append_nil e, wordsBy_blanks he]
    rfl
  have hsplit : t ++ e = Procedure.statementIndent ++ (q.name ++ (' ' :: ("IN" ++ (' ' ::
      (q.type ++ e))))) := by
    rw [h.text]
    simp
  rw [hsplit, wordsBy_blanks hb, wordsBy_blanks (by decide),
    wordsBy_append h.name.1 hname (Text.forall_head?_cons (by decide) _),
    wordsBy_blank (by decide),
    wordsBy_append (by decide) (by decide) (Text.forall_head?_cons (by decide) _),
    wordsBy_blank (by decide),
    wordsBy_append hne htype fun c hc => he.unicode c (List.mem_of_mem_head? hc), hend]

/-- A written parameter is read, with blanks around it. -/
theorem WrittenParameter.read (h : WrittenParameter T q t) (hT : Letters T)
    (hb : Blanks b) (he : Blanks e) :
    parameter? (b ++ (t ++ e)) = some q := by
  obtain ⟨hne, _, hout⟩ := h.type_word hT
  rw [parameter?, h.words hT hb he]
  have hmode : splitMode ["IN", q.type] = (.input, [q.type]) := by
    have hin : isWordOf "IN" "IN" = true := rfl
    rw [splitMode, if_pos hin, hout]
    rfl
  dsimp only
  rw [hmode, if_neg (List.cons_ne_nil _ _)]
  dsimp only
  rw [Text.join, List.intercalate_singleton, ← h.mode]

/-- Parameters with commas between them are read as they are written, with blanks around. -/
theorem parametersOf_join (h : List.Forall₂ (WrittenParameter T) qs ts) (hT : Letters T)
    (hb : Blanks b) (he : Blanks e) :
    parametersOf (b ++ (Text.join ",\n" ts ++ e)) = qs := by
  have hblank : ∀ {x : Text}, Blanks x → ',' ∉ x := fun hx => hx.not_mem (by decide)
  have hwritten : ∀ {q t}, WrittenParameter T q t → ',' ∉ t := fun ht hmem =>
    (by decide : ¬(Unicode.isBlank ',' = true ∨ Ascii.isWord ',' = true ∨ ',' = '.' ∨ ',' = '%'))
      (ht.mem hT hmem)
  induction h generalizing b with
  | nil =>
    have hnone : parameter? (b ++ (Text.join ",\n" [] ++ e)) = none := by
      rw [parameter?, wordsBy_blanks hb, Text.join, List.intercalate_nil, List.nil_append,
        ← List.append_nil e, wordsBy_blanks he]
      rfl
    rw [parametersOf, List.splitOn_eq_singleton, List.filterMap_cons_none hnone,
      List.filterMap_nil]
    simp only [Text.join, List.intercalate_nil, List.nil_append, List.mem_append, not_or]
    exact ⟨hblank hb, hblank he⟩
  | @cons q t qs ts ht hts ih =>
    cases hts with
    | nil =>
      rw [Text.join, List.intercalate_singleton, parametersOf, List.splitOn_eq_singleton,
        List.filterMap_cons_some (ht.read hT hb he), List.filterMap_nil]
      simp only [List.mem_append, not_or]
      exact ⟨hblank hb, hwritten ht, hblank he⟩
    | @cons q' t' qs' ts' ht' hts' =>
      have hsplit : b ++ (Text.join ",\n" (t :: t' :: ts') ++ e) =
          b ++ (t ++ []) ++ ',' :: ("\n" ++ (Text.join ",\n" (t' :: ts') ++ e)) := by
        rw [Text.join, List.intercalate_cons_cons]
        simp
      have hrest := ih (b := "\n") (by decide)
      rw [parametersOf] at hrest
      rw [hsplit, parametersOf, List.splitOn_append_cons_self_of_not_mem,
        List.filterMap_cons_some, hrest]
      · exact ht.read hT hb (List.forall_mem_nil _)
      · simp only [List.append_nil, List.mem_append, not_or]
        exact ⟨hblank hb, hwritten ht⟩

/-- No header and no end is read in a written parameter, whatever its names are, unless `follow`
    accepts the name of the table. -/
theorem WrittenParameter.inert (h : WrittenParameter T q t) (hT : IsName T)
    (hfollow : ∀ x, follow (T ++ '.' :: x) = none) {r : Text} (hr : Plain follow r) :
    Inert follow t r := by
  obtain ⟨column, hcolumn, htype⟩ := h.type
  have hsplit : t = Procedure.statementIndent ++ (q.name ++ (" IN " ++ (T ++ ("." ++ (column ++
      ("%" ++ ("TYPE" : Text))))))) := by
    have hlast : ("%TYPE" : Text) = "%" ++ ("TYPE" : Text) := rfl
    rw [h.text, htype, hlast]
    simp only [List.append_assoc]
  have htable : ∀ z, Plain follow (" IN " ++ (T ++ ("." ++ z)) ++ r) := fun z => by
    have hmild : Mild follow (T ++ '.' :: (z ++ r)) := mild_append hT (hfollow _)
    have hword := @Plain.word follow " " "IN" " " _ (by decide) (by decide) (by decide) hmild
    have heq : " IN " ++ (T ++ ("." ++ z)) ++ r =
        " " ++ ("IN" ++ (" " ++ (T ++ '.' :: (z ++ r)))) := by simp
    rw [heq]
    exact hword
  rw [hsplit]
  refine .phrase (by decide) (.name h.name.letters (htable _) (.phrase (by decide) ?_))
  refine .name hT.letters (.symbol (c := '.') (by decide)) (.phrase (by decide) ?_)
  refine .name hcolumn (.symbol (c := '%') (by decide)) (.phrase (by decide) ?_)
  exact inert_of_letters (by decide) hr

/-! ## Between the parentheses -/

/-- What stands between the parentheses of a procedure. -/
def inside (p : Procedure) : Text := "\n" ++ p.parameterBlock ++ Procedure.indent

/-- Behind the last parameter, there are blanks. -/
theorem exists_inside (p : Procedure) : ∃ e, (e = Procedure.indent ∨ e = '\n' :: Procedure.indent) ∧
    inside p = "\n" ++ (Text.join ",\n" p.parameters ++ e) := by
  unfold inside Procedure.parameterBlock
  split
  · rename_i hjoin
    exact ⟨_, .inl rfl, by rw [hjoin]; rfl⟩
  · rename_i c block hjoin
    exact ⟨_, .inr rfl, by rw [hjoin]; simp⟩

variable {p : Procedure}

/-- The parameters of a procedure are read between its parentheses. -/
theorem parametersOf_inside (h : List.Forall₂ (WrittenParameter T) qs p.parameters)
    (hT : Letters T) : parametersOf (inside p) = qs := by
  obtain ⟨e, he, hinside⟩ := exists_inside p
  rw [hinside]
  refine parametersOf_join h hT (by decide) ?_
  rcases he with rfl | rfl <;> decide

/-- No parenthesis stands between the parentheses of a procedure. -/
theorem not_mem_inside (h : List.Forall₂ (WrittenParameter T) qs p.parameters) (hT : Letters T)
    (hc : c = '(' ∨ c = ')') : c ∉ inside p := by
  obtain ⟨e, he, hinside⟩ := exists_inside p
  have hjoin : c ∉ Text.join ",\n" p.parameters := by
    refine Text.not_mem_join ?_ (Lists.forall_mem_of_forall₂ h.flip fun t q ht hmem => ?_)
    · rcases hc with rfl | rfl <;> decide
    · have hchar := ht.mem hT hmem
      rcases hc with rfl | rfl <;> exact absurd hchar (by decide)
  rw [hinside]
  simp only [List.mem_append, not_or]
  refine ⟨?_, hjoin, ?_⟩
  · rcases hc with rfl | rfl <;> decide
  · rcases hc with rfl | rfl <;> rcases he with rfl | rfl <;> decide

/-- No header and no end is read between the parentheses of a procedure. -/
theorem inert_inside (h : List.Forall₂ (WrittenParameter T) qs p.parameters) (hT : IsName T)
    (hfollow : ∀ x, follow (T ++ '.' :: x) = none) : Inert follow (inside p) (')' :: s) := by
  obtain ⟨e, he, hinside⟩ := exists_inside p
  have hplain : Plain follow (e ++ ')' :: s) := by
    rcases he with rfl | rfl <;> exact .gap (by decide) (by decide)
  rw [hinside]
  refine .phrase (by decide) (.append (inert_join (by decide) ?_ ?_ hplain) ?_)
  · exact fun x => .symbol (c := ',') (by decide)
  · exact Lists.forall_mem_of_forall₂ h.flip fun t q ht r hr => ht.inert hT hfollow hr
  · refine inert_of_isFixed ?_
    rcases he with rfl | rfl <;> decide

end TablePackage.Routine
