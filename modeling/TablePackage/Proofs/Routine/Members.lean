import TablePackage.Proofs.Routine.Parameters

/-!
# Members of a package

The declaration and the definition of a procedure are read back from a text in which they stand:
the header, the parameters between its parentheses, and the text up to the semicolon at the end.

* `header?_heading`: the header of a procedure, and what follows it;
* `reads_declaration`, `reads_definition`: the routine that a member writes (`Reads`);
* `misses_declaration`, `misses_definition`: no end of the package is read in a member.
-/

namespace TablePackage.Routine

open Ascii

variable {follow : Text → Option Text} {T n r t u v : Text} {p : Procedure}
  {qs : List Parameter}

/-! ## Procedures -/

/-- A procedure with a name that is read, and with parameters that have types of the table `T`. -/
structure Legible (T : Text) (p : Procedure) (qs : List Parameter) : Prop where
  name : IsName p.name
  parameters : List.Forall₂ (WrittenParameter T) qs p.parameters
  arguments : p.takesArguments = false → p.parameters = []

/-- A procedure up to the end of its parameters, without the indentation. -/
def heading (p : Procedure) : Text :=
  "PROCEDURE " ++ (p.name ++ if p.takesArguments then '(' :: (inside p ++ [')']) else [])

/-- Statements as they stand in a procedure, one a line. -/
def indented (ts : List Text) : Text :=
  (ts.map (Procedure.statementIndent ++ ·)).flatMap (· ++ ("\n" : Text))

/-- What stands between the heading of a procedure and its end. -/
def middle (p : Procedure) : Text :=
  " IS\n" ++ (indented p.locals ++ (Procedure.indent ++ ("BEGIN\n" ++
    (indented p.statements ++ Procedure.indent))))

/-- A definition as it stands in a package, without the indentation. -/
def written (p : Procedure) : Text := heading p ++ (middle p ++ ("END " ++ (p.name ++ [';'])))

theorem written_append (p : Procedure) (v : Text) :
    written p ++ v = heading p ++ (middle p ++ ("END " ++ (p.name ++ ';' :: v))) := by
  simp only [written, List.append_assoc, List.cons_append, List.nil_append]

theorem heading_of_takesArguments (h : p.takesArguments = true) :
    heading p = "PROCEDURE" ++ (" " ++ (p.name ++ '(' :: (inside p ++ [')']))) := by
  unfold heading
  rw [if_pos h]
  rfl

theorem heading_of_not_takesArguments (h : ¬p.takesArguments = true) :
    heading p = "PROCEDURE" ++ (" " ++ p.name) := by
  unfold heading
  rw [if_neg h, List.append_nil]
  rfl

theorem signature_eq (p : Procedure) : p.signature = Procedure.indent ++ heading p := by
  unfold Procedure.signature
  by_cases h : p.takesArguments = true
  · rw [if_pos h, heading_of_takesArguments h]
    unfold inside
    simp
  · rw [if_neg h, heading_of_not_takesArguments h]
    simp

theorem declaration_eq (p : Procedure) :
    p.declaration = Procedure.indent ++ (heading p ++ [';']) := by
  rw [Procedure.declaration, signature_eq, List.append_assoc]
  rfl

theorem definition_eq (p : Procedure) : p.definition = Procedure.indent ++ written p := by
  unfold Procedure.definition written middle indented
  rw [Text.join_append_singleton, signature_eq]
  simp only [List.flatMap_append, List.flatMap_singleton, List.append_assoc]
  rfl

theorem map_definition (ps : List Procedure) :
    ps.map (·.definition) = (ps.map written).map (Procedure.indent ++ ·) := by
  rw [List.map_map]
  exact List.map_congr_left fun p _ => definition_eq p

/-- A header is read up to its name, and to a parenthesis that opens behind it. -/
theorem header?_append (hw : IsName n) (hr : Stops r) :
    header? ("PROCEDURE" ++ (" " ++ (n ++ r))) =
      match char? '(' (skipBlanks r) with
      | some rest => some ⟨n, "PROCEDURE" ++ (" " ++ (n ++ r)), true, rest⟩
      | none => some ⟨n, "PROCEDURE" ++ (" " ++ (n ++ r)), false, skipBlanks r⟩ := by
  rw [header?, keyword?_append "PROCEDURE" hw, Option.bind_eq_bind, Option.bind_some,
    name?_append hw hr]
  rfl

/-- What of the heading of a procedure is left behind its header. -/
def closed (p : Procedure) : Text := if p.takesArguments then inside p ++ [')'] else []

/-- What is left behind the header of a procedure, when `r` follows its heading. -/
def behind (p : Procedure) (r : Text) : Text :=
  closed p ++ if p.takesArguments then r else skipBlanks r

/-- The header of a procedure is read, if no parenthesis opens behind the heading. -/
theorem header?_heading (hname : IsName p.name) (hr : Stops r)
    (hopen : char? '(' (skipBlanks r) = none) :
    header? (heading p ++ r) =
      some ⟨p.name, heading p ++ r, p.takesArguments, behind p r⟩ := by
  by_cases h : p.takesArguments = true
  · have hsplit : heading p ++ r = "PROCEDURE" ++ (" " ++ (p.name ++ '(' ::
        (inside p ++ ')' :: r))) := by
      rw [heading_of_takesArguments h]
      simp
    rw [hsplit, header?_append hname (stops_cons (by decide)),
      skipBlanks_symbol (by decide), behind, closed, if_pos h, if_pos h,
      h, List.append_assoc]
    rfl
  · have hsplit : heading p ++ r = "PROCEDURE" ++ (" " ++ (p.name ++ r)) := by
      rw [heading_of_not_takesArguments h]
      simp
    rw [hsplit, header?_append hname hr, hopen, behind, closed, if_neg h, if_neg h,
      Bool.eq_false_iff.2 h, List.nil_append]

/-- The parameters of a procedure, and what follows its heading. -/
theorem exists_parameterSection? (h : Legible T p qs) (hT : Letters T) (t r : Text) :
    ∃ x, parameterSection? ⟨p.name, t, p.takesArguments, behind p r⟩ =
      some (x, if p.takesArguments then r else skipBlanks r) ∧ parametersOf x = qs := by
  by_cases htakes : p.takesArguments = true
  · refine ⟨inside p, ?_, parametersOf_inside h.parameters hT⟩
    rw [parameterSection?, if_pos htakes, behind, closed, if_pos htakes, if_pos htakes,
      List.append_assoc]
    exact closing?_append (not_mem_inside h.parameters hT (.inl rfl))
      (not_mem_inside h.parameters hT (.inr rfl))
  · refine ⟨[], ?_, ?_⟩
    · rw [parameterSection?, if_neg htakes, behind, closed, if_neg htakes, if_neg htakes,
        List.nil_append]
    · have hparameters := h.parameters
      rw [h.arguments (Bool.eq_false_iff.2 htakes)] at hparameters
      rw [List.forall₂_nil_right_iff.1 hparameters]
      rfl

/-- No header and no end is read in what is left of a heading. -/
theorem inert_closed (h : Legible T p qs) (hT : IsName T)
    (hfollow : ∀ x, follow (T ++ '.' :: x) = none) : Inert follow (closed p) v := by
  rw [closed]
  split
  · exact .append (inert_inside h.parameters hT hfollow) (inert_of_isFixed (by decide))
  · exact inert_nil v

/-- A word does not start with a symbol. -/
theorem char?_name {c : Char} (hn : IsName n) (hc : Ascii.isWord c = false) :
    char? c (n ++ r) = none := by
  obtain ⟨d, n, rfl⟩ := List.exists_cons_of_ne_nil hn.1
  refine char?_eq_none (Text.forall_head?_cons ?_ _)
  rintro rfl
  rw [hn.2 d List.mem_cons_self] at hc
  cases hc

/-! ## Declarations -/

/-- The member `w` is read as a routine, whatever follows it: it starts with a header of which
    `read` makes the routine, and then comes a text up to a semicolon in which there is no
    other header. -/
def Reads (read : Header → Option Routine) (follow : Text → Option Text) (w : Text)
    (routine : Routine) : Prop :=
  ∀ v, ∃ h u, header? (w ++ v) = some h ∧ read h = some routine ∧ h.rest = u ++ ';' :: v ∧
    Text.Misses (candidate? follow) (u ++ [';']) v

/-- The declaration of a procedure is read as it is written. -/
theorem reads_declaration (h : Legible T p qs) (hT : IsName T) (package : Text) :
    Reads (declaration? package) (char? ';') (heading p ++ [';'])
      ⟨package, p.name, qs, trim p.declaration⟩ := by
  intro v
  have hsplit : heading p ++ [';'] ++ v = heading p ++ ';' :: v := by simp
  have hskip : skipBlanks (';' :: v) = ';' :: v :=
    skipBlanks_symbol (by decide)
  have hheader := header?_heading h.name (r := ';' :: v) (stops_cons (by decide))
    (by rw [hskip]; rfl)
  obtain ⟨x, hsection, hx⟩ := exists_parameterSection? h hT.letters (heading p ++ ';' :: v)
    (';' :: v)
  rw [hskip, ite_self] at hsection
  have htext : trim (upTo v (heading p ++ ';' :: v)) = trim p.declaration := by
    rw [← hsplit, upTo_append, declaration_eq, trim_append (b := Procedure.indent) (by decide)]
  have hread : declaration? package ⟨p.name, heading p ++ ';' :: v, p.takesArguments,
      behind p (';' :: v)⟩ = some ⟨package, p.name, qs, trim p.declaration⟩ := by
    unfold declaration?
    rw [hsection]
    simp only [bind, Option.bind]
    rw [hskip]
    simp only [char?, if_true, hx, htext]
    rfl
  rw [hsplit]
  refine ⟨_, closed p, hheader, hread, ?_, ?_⟩
  · dsimp only [behind]
    rw [hskip, ite_self]
  · have hclosed : Inert (char? ';') (closed p) ([';'] ++ v) :=
      inert_closed h hT fun x => char?_name hT (by decide)
    exact (hclosed.append (inert_of_isFixed (by decide))).headers

/-! ## Definitions -/

/-- A procedure whose statements are read over, whatever follows them. -/
structure Quiet (p : Procedure) : Prop where
  inert : ∀ s, Inert isOrAs? (middle p) s
  plain : ∀ s, Plain isOrAs? (middle p ++ s)

/-- The end of a procedure is read for each name that is the same in another letter case. -/
theorem end?_append_of_sameName (hn : IsName n) (ht : IsName t)
    (h : SameName n t) : end? n ("END " ++ (t ++ ';' :: v)) = some ((), v) := by
  have hsplit : "END " ++ (t ++ ';' :: v) = "END" ++ (" " ++ (t ++ ';' :: v)) := rfl
  rw [hsplit, end?, keyword?_append "END" ht, Option.bind_eq_bind, Option.bind_some,
    word?_append_of_sameName hn.letters ht.letters h, Option.bind_some,
    skipBlanks_symbol (by decide)]
  rfl

/-- The end of a procedure is read where it is written. -/
theorem end?_append (hn : IsName n) : end? n ("END " ++ (n ++ ';' :: v)) = some ((), v) := by
  rw [end?_append_of_sameName hn hn rfl]

/-- No header is read in the end of a procedure. -/
theorem misses_end (hn : IsName n) :
    Text.Misses (candidate? follow) ("END " ++ (n ++ [';'])) v := by
  have hname : Inert follow (n ++ [';']) v :=
    .name hn.letters (.symbol (c := ';') (by decide)) (inert_of_isFixed (by decide))
  exact Text.misses_append.2
    ⟨(keyed_candidate? follow).misses_of_isFree (by decide), hname.headers⟩

/-- What of the middle of a procedure is left behind its header. -/
def remainder (p : Procedure) : Text := if p.takesArguments then middle p else (middle p).tail

theorem middle_eq (p : Procedure) : ∃ z, middle p = ' ' :: ("IS" ++ '\n' :: z) := ⟨_, rfl⟩

theorem skipBlanks_middle (p : Procedure) (t : Text) :
    skipBlanks (middle p ++ t) = (middle p).tail ++ t := by
  obtain ⟨z, hz⟩ := middle_eq p
  rw [hz]
  exact skipBlanks_append (b := " ") (by decide) (Text.forall_head?_cons (by decide) _)

theorem ite_middle (p : Procedure) (t : Text) :
    (if p.takesArguments then middle p ++ t else skipBlanks (middle p ++ t)) =
      remainder p ++ t := by
  rw [remainder, skipBlanks_middle]
  split <;> rfl

theorem Quiet.inert_remainder (hp : Quiet p) (s : Text) : Inert isOrAs? (remainder p) s := by
  rw [remainder]
  split
  · exact hp.inert s
  · obtain ⟨z, hz⟩ := middle_eq p
    have hinert := hp.inert s
    rw [hz] at hinert ⊢
    exact ⟨hinert.headers.2, fun n hn => (hinert.ends n hn).2⟩

/-- `IS` stands behind the heading of a definition. -/
theorem isOrAs?_remainder (p : Procedure) (t : Text) :
    ∃ z, isOrAs? (skipBlanks (remainder p ++ t)) = some z := by
  have hskip : skipBlanks (remainder p ++ t) = (middle p).tail ++ t := by
    rw [← ite_middle, ← skipBlanks_middle]
    split
    · rfl
    · exact skipBlanks_skipBlanks _
  obtain ⟨z, hz⟩ := middle_eq p
  rw [hskip, hz, List.tail_cons, List.append_assoc]
  exact ⟨_, isOrAs?_is (stops_cons (by decide))⟩

/-- The header of a definition is read, whatever stands behind its statements. -/
theorem header?_definition (hname : IsName p.name) (hp : Quiet p) (t : Text) :
    header? (heading p ++ (middle p ++ t)) = some ⟨p.name, heading p ++ (middle p ++ t),
      p.takesArguments, closed p ++ (remainder p ++ t)⟩ := by
  have hopen : char? '(' (skipBlanks (middle p ++ t)) = none := by
    rw [skipBlanks_middle]
    rfl
  rw [header?_heading hname (hp.plain t).stops hopen, behind, ite_middle]

/-- A definition is read up to the first end that stands behind its statements, or to the end of
    the text. -/
theorem definition?_of_quiet (h : Legible T p qs) (hT : IsName T) (hp : Quiet p)
    (package text t : Text) :
    definition? package ⟨p.name, text, p.takesArguments, closed p ++ (remainder p ++ t)⟩ =
      some ⟨package, p.name, qs,
        trim (upTo ((Text.find? (end? p.name) t).elim [] (·.rest)) text)⟩ := by
  obtain ⟨x, hsection, hx⟩ := exists_parameterSection? h hT.letters text (middle p ++ t)
  rw [behind, ite_middle] at hsection
  obtain ⟨z, hz⟩ := isOrAs?_remainder p t
  have hfind := Text.find?_append_of_misses ((hp.inert_remainder t).ends p.name h.name)
  unfold definition?
  rw [hsection]
  simp only [bind, Option.bind]
  rw [hz, hfind, hx]
  cases Text.find? (end? p.name) t <;> rfl

/-- No other header is read behind the header of a definition. -/
theorem misses_remainder (h : Legible T p qs) (hT : IsName T) (hne : ¬IsOrAs T) (hp : Quiet p) :
    Text.Misses (candidate? isOrAs?) (closed p ++ remainder p) v := by
  have hclosed : ∀ s, Inert isOrAs? (closed p) s := fun s =>
    inert_closed h hT fun x => isOrAs?_eq_none hT.letters hne (stops_cons (by decide))
  exact Text.misses_append.2 ⟨(hclosed _).headers, (hp.inert_remainder _).headers⟩

/-- The definition of a procedure is read as it is written. -/
theorem reads_definition (h : Legible T p qs) (hT : IsName T) (hne : ¬IsOrAs T) (hp : Quiet p)
    (package : Text) :
    Reads (definition? package) isOrAs? (written p) ⟨package, p.name, qs, trim p.definition⟩ := by
  intro v
  have hfind :
      (Text.find? (end? p.name) ("END " ++ (p.name ++ ';' :: v))).elim [] (·.rest) = v := by
    rw [Text.find?_of_read (end?_append h.name)]
    rfl
  have htext : trim (upTo v (heading p ++ (middle p ++ ("END " ++ (p.name ++ ';' :: v))))) =
      trim p.definition := by
    rw [← written_append, upTo_append, definition_eq,
      trim_append (b := Procedure.indent) (by decide)]
  rw [written_append]
  refine ⟨_, closed p ++ (remainder p ++ ("END " ++ p.name)),
    header?_definition h.name hp _, ?_, ?_, ?_⟩
  · rw [definition?_of_quiet h hT hp, hfind, htext]
  · simp
  · have hend : Text.Misses (candidate? isOrAs?) (closed p ++ remainder p ++
        ("END " ++ (p.name ++ [';']))) v :=
      Text.misses_append.2 ⟨misses_remainder h hT hne hp, misses_end h.name⟩
    simpa only [List.append_assoc] using hend

/-! ## Ends of packages -/

/-- The end of a procedure is not that of a package with another name. -/
theorem end?_eq_none (hn : IsName n) (ht : IsName t)
    (hne : ¬SameName n t) : end? n ("END " ++ (t ++ ';' :: v)) = none := by
  by_contra h
  obtain ⟨r, u, hr, hu, w, hw, hsemicolon⟩ := keyed_end? n _ h
  have hsplit : "END " ++ (t ++ ';' :: v) = "END" ++ (" " ++ (t ++ ';' :: v)) := rfl
  rw [hsplit, word?_append] at hr
  obtain rfl := Option.some.inj hr
  rw [blanks?_append (by decide) (head?_name ht)] at hu
  obtain rfl := Option.some.inj hu
  obtain ⟨q, w', rfl, rfl, hq⟩ := word?_append_eq_some hn.letters (stops_cons (by decide)) hw
  cases w' with
  | nil =>
    rw [List.append_nil] at hne ht
    exact hne (map_toLower_eq hn.letters ht.letters hq)
  | cons c w' =>
    have hc := ht.2 c (List.mem_append_right q List.mem_cons_self)
    refine hsemicolon ?_
    rw [List.cons_append,
      skipBlanks_eq_self (Text.forall_head?_cons (Unicode.isBlank_of_isWord hc) _)]
    refine char?_eq_none (Text.forall_head?_cons ?_ _)
    rintro rfl
    cases hc

/-- No end is read in the heading of a procedure. -/
theorem misses_heading (h : Legible T p qs) (hT : IsName T)
    (hfollow : ∀ x, follow (T ++ '.' :: x) = none) (hn : IsName n) (hr : Plain follow r) :
    Text.Misses (end? n) (heading p) r := by
  have hkeyword : ∀ s, Text.Misses (end? n) ("PROCEDURE" ++ (" " : Text)) s := fun s =>
    (keyed_end? n).misses_of_isFree (by decide)
  by_cases htakes : p.takesArguments = true
  · have hinside : Inert follow (p.name ++ '(' :: (inside p ++ [')'])) r := by
      refine .name h.name.letters (.symbol (c := '(') (by decide)) ?_
      change Inert follow ("(" ++ (inside p ++ [')'])) r
      exact .phrase (by decide) (.append (inert_inside h.parameters hT hfollow)
        (inert_of_isFixed (by decide)))
    rw [heading_of_takesArguments htakes, ← List.append_assoc]
    exact Text.misses_append.2 ⟨hkeyword _, hinside.ends n hn⟩
  · rw [heading_of_not_takesArguments htakes, ← List.append_assoc]
    exact Text.misses_append.2 ⟨hkeyword _, (inert_of_letters h.name.letters hr).ends n hn⟩

/-- No end of a package is read in a declaration. -/
theorem misses_declaration (h : Legible T p qs) (hT : IsName T) (hn : IsName n) :
    Text.Misses (end? n) (heading p ++ [';']) v := by
  have hsymbol : Plain (char? ';') ([';'] ++ v) := .symbol (c := ';') (by decide)
  exact Text.misses_append.2
    ⟨misses_heading h hT (fun x => char?_name hT (by decide)) hn hsymbol,
      (keyed_end? n).misses_of_isFree (by decide)⟩

/-- No end is read in front of that of a definition. -/
theorem misses_statements (h : Legible T p qs) (hT : IsName T) (hne : ¬IsOrAs T) (hp : Quiet p)
    (hn : IsName n) : Text.Misses (end? n) (heading p ++ middle p) v := by
  have hfollow : ∀ x, isOrAs? (T ++ '.' :: x) = none := fun x =>
    isOrAs?_eq_none hT.letters hne (stops_cons (by decide))
  exact Text.misses_append.2
    ⟨misses_heading h hT hfollow hn (hp.plain v), (hp.inert v).ends n hn⟩

/-- No end of a package with another name is read in a definition. -/
theorem misses_definition (h : Legible T p qs) (hT : IsName T) (hne : ¬IsOrAs T) (hp : Quiet p)
    (hn : IsName n) (hname : ¬SameName n p.name) :
    Text.Misses (end? n) (written p) v := by
  have hlast : Inert isOrAs? (p.name ++ [';']) v :=
    .name h.name.letters (.symbol (c := ';') (by decide))
      (inert_of_isFixed (by decide))
  have hend : end? n ('E' :: ("ND " ++ (p.name ++ [';']) ++ v)) = none := by
    have hsplit : 'E' :: ("ND " ++ (p.name ++ [';']) ++ v) = "END " ++ (p.name ++ ';' :: v) := by
      simp
    rw [hsplit]
    exact end?_eq_none hn h.name hname
  rw [written, ← List.append_assoc]
  refine Text.misses_append.2 ⟨misses_statements h hT hne hp hn, hend, ?_⟩
  exact Text.misses_append.2
    ⟨(keyed_end? n).misses_of_isFree (u := "ND ") (by decide), hlast.ends n hn⟩

end TablePackage.Routine
