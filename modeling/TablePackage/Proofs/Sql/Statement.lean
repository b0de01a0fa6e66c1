import TablePackage.Proofs.Sql.Reader

/-!
# Written statements

How the statements of a package are written, as tokens. If the tables, columns and parameters have
names, each statement is read as it is written, whatever the names are.

* `listing?_words`: lists are read as they are written;
* `statement_words`: so are statements;
* `writes_of_statements`: so is a procedure that has these statements.
-/

namespace TablePackage.Sql

open Ascii

variable {α : Type} {w : Text}

/-! ## Delimiters -/

/-- A symbol that ends an entry, a list or a sentence. -/
def IsDelimiter (x : Text) : Prop := x = comma ∨ x = ")" ∨ x = ";"

theorem IsDelimiter.ne {x : Text} (hx : IsDelimiter x) (hw : IsName w) : x ≠ w := by
  rintro rfl
  rcases hx with rfl | rfl | rfl <;> exact absurd hw (by decide)

/-! ## Equations, parameters and lists -/

/-- The tokens of an equation. -/
def Equation.words (e : Equation) : List Text := e.column :: (tokens "=" ++ [e.value])

/-- The tokens of a condition. -/
def Equation.condition (e : Equation) : List Text := tokens "WHERE" ++ e.words

/-- The tokens of a parameter. -/
def Argument.words (a : Argument) : List Text :=
  a.name :: (tokens "IN" ++ a.table :: (tokens "." ++ a.column :: tokens "%TYPE"))

/-- The tokens of a list. -/
def Listing.words (words : α → List Text) (l : Listing α) : List Text :=
  [comma].intercalate (l.entries.map words)

def Equation.IsNamed (e : Equation) : Prop := IsName e.column ∧ IsName e.value

def Argument.IsNamed (a : Argument) : Prop := IsName a.name ∧ IsName a.table ∧ IsName a.column

/-- A list with a comma between two of its entries. -/
def Listing.Separated (l : Listing α) : Prop := l.commas = l.entries.length - 1

@[simp] theorem equation?_words (e : Equation) : equation? e.words = some e := by
  simp only [equation?, Equation.words, phrase?_append, Option.bind_eq_bind, Option.bind_some,
    word?, Option.pure_def]

@[simp] theorem condition?_condition (e : Equation) : condition? e.condition = some e := by
  rw [condition?, Equation.condition, phrase?_append, Option.bind_some, equation?_words]

@[simp] theorem argument?_words (a : Argument) : argument? a.words = some a := by
  simp only [argument?, Argument.words, phrase?_append, token?, Option.bind_eq_bind,
    Option.bind_some, if_true, Option.pure_def]

theorem Equation.IsNamed.not_mem {e : Equation} (h : e.IsNamed) {x : Text} (hx : IsDelimiter x) :
    x ∉ e.words := by
  have hequals : x ∉ tokens "=" := by rcases hx with rfl | rfl | rfl <;> decide
  simp only [Equation.words, List.mem_cons, List.mem_append, List.not_mem_nil, or_false, not_or]
  exact ⟨hx.ne h.1, hequals, hx.ne h.2⟩

theorem Argument.IsNamed.not_mem {a : Argument} (h : a.IsNamed) {x : Text} (hx : IsDelimiter x) :
    x ∉ a.words := by
  have hphrases : x ∉ tokens "IN" ∧ x ∉ tokens "." ∧ x ∉ tokens "%TYPE" := by
    rcases hx with rfl | rfl | rfl <;> decide
  simp only [Argument.words, List.mem_cons, List.mem_append, not_or]
  exact ⟨hx.ne h.1, hphrases.1, hx.ne h.2.1, hphrases.2.1, hx.ne h.2.2, hphrases.2.2⟩

/-- A list is read as it is written. -/
theorem listing?_words {words : α → List Text} {item? : List Text → Option α} {l : Listing α}
    (hl : l.Separated) (hread : ∀ x ∈ l.entries, item? (words x) = some x)
    (hne : ∀ x ∈ l.entries, words x ≠ []) (hcomma : ∀ x ∈ l.entries, comma ∉ words x) :
    listing? item? (l.words words) = some l := by
  have hentries : listing? item? (l.words words) = some (.of l.entries) := by
    refine listing?_intercalate (List.forall₂_map_left_iff.2 (List.forall₂_same.2 fun x hx => ?_))
    exact ⟨hread x hx, hne x hx, hcomma x hx⟩
  rw [hentries, Listing.of, ← hl]

/-- What stands neither in the entries nor between them stands in no list. -/
theorem Listing.not_mem_words {words : α → List Text} {l : Listing α} {x : Text} (hx : x ≠ comma)
    (h : ∀ y ∈ l.entries, x ∉ words y) : x ∉ l.words words := by
  obtain ⟨xs, m⟩ := l
  change x ∉ [comma].intercalate (xs.map words)
  induction xs with
  | nil => exact List.not_mem_nil
  | cons y xs ih =>
    obtain ⟨hy, hxs⟩ := List.forall_mem_cons.1 h
    cases xs with
    | nil => rwa [List.map_singleton, List.intercalate_singleton]
    | cons z xs =>
      rw [List.map_cons, List.map_cons, List.intercalate_cons_cons, List.mem_append,
        List.mem_append, List.mem_singleton, not_or, not_or]
      exact ⟨⟨hy, hx⟩, ih hxs⟩

/-! ## Statements -/

/-- The tokens of a statement, without the semicolon. -/
def Statement.words : Statement → List Text
  | .insert table columns values =>
    tokens "INSERT INTO" ++ table :: (tokens "(" ++ (columns.words (fun w => [w]) ++ (tokens ")" ++
      (tokens "VALUES" ++ (tokens "(" ++ (values.words (fun w => [w]) ++ tokens ")"))))))
  | .update table assignments condition =>
    tokens "UPDATE" ++ table :: (tokens "SET" ++
      (assignments.words Equation.words ++ condition.condition))
  | .delete table condition => tokens "DELETE FROM" ++ table :: condition.condition
  | .query cursor table condition =>
    tokens "OPEN" ++ cursor :: (tokens "FOR SELECT * FROM" ++
      table :: (condition.map Equation.condition).getD [])
  | .other ws => ws

/-- A statement in which everything is named. -/
def Statement.IsNamed : Statement → Prop
  | .insert table columns values =>
    IsName table ∧ (columns.Separated ∧ ∀ w ∈ columns.entries, IsName w) ∧
      (values.Separated ∧ ∀ w ∈ values.entries, IsName w)
  | .update table assignments condition =>
    IsName table ∧ (assignments.Separated ∧ ∀ e ∈ assignments.entries, e.IsNamed) ∧
      condition.IsNamed
  | .delete table condition => IsName table ∧ condition.IsNamed
  | .query cursor table condition => IsName cursor ∧ IsName table ∧ ∀ e ∈ condition, e.IsNamed
  | .other ws => statement ws = .other ws ∧ IsSentence "END" ws

/-- Names are read as they are written. -/
theorem listing?_names {l : Listing Text} (hl : l.Separated) (hnames : ∀ w ∈ l.entries, IsName w) :
    listing? word? (l.words fun w => [w]) = some l := by
  refine listing?_words hl (fun w _ => rfl) (fun w _ => List.cons_ne_nil w []) fun w hw => ?_
  rw [List.mem_singleton]
  exact IsDelimiter.ne (.inl rfl) (hnames w hw)

theorem IsDelimiter.not_mem_names {l : Listing Text} {x : Text} (hx : IsDelimiter x)
    (hne : x ≠ comma) (hnames : ∀ w ∈ l.entries, IsName w) : x ∉ l.words fun w => [w] := by
  refine Listing.not_mem_words hne fun w hw => ?_
  rw [List.mem_singleton]
  exact hx.ne (hnames w hw)

/-- Each reader reads the statements of its kind as they are written. -/
theorem insert?_words {table : Text} {columns values : Listing Text}
    (h : (Statement.insert table columns values).IsNamed) :
    insert? (Statement.insert table columns values).words =
      some (.insert table columns values) := by
  obtain ⟨-, ⟨hcolumns, hcolumns'⟩, hvalues, hvalues'⟩ := h
  have hclose : ∀ {l : Listing Text}, (∀ w ∈ l.entries, IsName w) →
      (")" : Text) ∉ l.words fun w => [w] := fun hnames =>
    IsDelimiter.not_mem_names (.inr (.inl rfl)) (by decide) hnames
  have hlast := parenthesized?_append (hclose hvalues') []
  rw [List.append_nil] at hlast
  simp only [insert?, Statement.words, Option.bind_eq_bind, phrase?_append, Option.bind_some,
    token?, parenthesized?_append (hclose hcolumns'), hlast, if_true,
    listing?_names hcolumns hcolumns', listing?_names hvalues hvalues', Option.pure_def]

theorem update?_words {table : Text} {assignments : Listing Equation} {condition : Equation}
    (h : (Statement.update table assignments condition).IsNamed) :
    update? (Statement.update table assignments condition).words =
      some (.update table assignments condition) := by
  obtain ⟨-, ⟨hassignments, hassignments'⟩, -⟩ := h
  have hlisting : listing? equation? (assignments.words Equation.words) = some assignments :=
    listing?_words hassignments (fun e _ => equation?_words e) (fun e _ => List.cons_ne_nil _ _)
      fun e he => (hassignments' e he).not_mem (.inl rfl)
  have hlength : (assignments.words Equation.words ++ condition.condition).length - 4 =
      (assignments.words Equation.words).length := by
    have hcondition : condition.condition.length = 4 := rfl
    rw [List.length_append, hcondition, Nat.add_sub_cancel]
  simp only [update?, Statement.words, Option.bind_eq_bind, phrase?_append, Option.bind_some,
    token?, hlength, List.take_left, List.drop_left, hlisting, condition?_condition,
    Option.pure_def]

theorem delete?_words (table : Text) (condition : Equation) :
    delete? (Statement.delete table condition).words = some (.delete table condition) := by
  simp only [delete?, Statement.words, Option.bind_eq_bind, phrase?_append, Option.bind_some,
    token?, condition?_condition, Option.pure_def]

theorem query?_words (cursor table : Text) (condition : Option Equation) :
    query? (Statement.query cursor table condition).words =
      some (.query cursor table condition) := by
  simp only [query?, Statement.words, Option.bind_eq_bind, phrase?_append, Option.bind_some,
    token?]
  cases condition with
  | none => rfl
  | some e =>
    have hne : e.condition ≠ [] := List.append_ne_nil_of_left_ne_nil (by decide) _
    rw [Option.map_some, Option.getD_some, if_neg hne, condition?_condition]
    rfl

/-- A statement is read as it is written: the readers that are tried before its own one fail at the
    first word. -/
theorem statement_words {st : Statement} (h : st.IsNamed) : statement st.words = st := by
  cases st with
  | insert table columns values =>
    rw [statement, insert?_words h]
    rfl
  | update table assignments condition =>
    have hinsert : insert? (Statement.update table assignments condition).words = none := rfl
    rw [statement, hinsert, update?_words h]
    rfl
  | delete table condition =>
    have hinsert : insert? (Statement.delete table condition).words = none := rfl
    have hupdate : update? (Statement.delete table condition).words = none := rfl
    rw [statement, hinsert, hupdate, delete?_words]
    rfl
  | query cursor table condition =>
    have hinsert : insert? (Statement.query cursor table condition).words = none := rfl
    have hupdate : update? (Statement.query cursor table condition).words = none := rfl
    have hdelete : delete? (Statement.query cursor table condition).words = none := rfl
    rw [statement, hinsert, hupdate, hdelete, query?_words]
    rfl
  | other ws => exact h.1

theorem Equation.IsNamed.not_mem_condition {e : Equation} (h : e.IsNamed) :
    (";" : Text) ∉ e.condition := by
  rw [Equation.condition, List.mem_append, not_or]
  exact ⟨by decide, h.not_mem (.inr (.inr rfl))⟩

/-- A statement with names is a sentence, which is not taken for the end of the procedure. -/
theorem Statement.IsNamed.isSentence {st : Statement} (h : st.IsNamed) :
    IsSentence "END" st.words := by
  have hname : ∀ {w}, IsName w → (";" : Text) ≠ w := fun hw => IsDelimiter.ne (.inr (.inr rfl)) hw
  cases st with
  | insert table columns values =>
    obtain ⟨htable, ⟨-, hcolumns⟩, -, hvalues⟩ := h
    have hnames : ∀ {l : Listing Text}, (∀ w ∈ l.entries, IsName w) →
        (";" : Text) ∉ l.words fun w => [w] := fun hl =>
      IsDelimiter.not_mem_names (.inr (.inr rfl)) (by decide) hl
    refine ⟨List.cons_ne_nil _ _, ?_, fun he => absurd (Option.some.inj he) (by decide)⟩
    simp only [Statement.words, List.mem_append, List.mem_cons, not_or]
    exact ⟨by decide, hname htable, by decide, hnames hcolumns, by decide, by decide, by decide,
      hnames hvalues, by decide⟩
  | update table assignments condition =>
    obtain ⟨htable, ⟨-, hassignments⟩, hcondition⟩ := h
    refine ⟨List.cons_ne_nil _ _, ?_, fun he => absurd (Option.some.inj he) (by decide)⟩
    simp only [Statement.words, List.mem_append, List.mem_cons, not_or]
    exact ⟨by decide, hname htable, by decide, Listing.not_mem_words (by decide)
      fun e he => (hassignments e he).not_mem (.inr (.inr rfl)), hcondition.not_mem_condition⟩
  | delete table condition =>
    refine ⟨List.cons_ne_nil _ _, ?_, fun he => absurd (Option.some.inj he) (by decide)⟩
    simp only [Statement.words, List.mem_append, List.mem_cons, not_or]
    exact ⟨by decide, hname h.1, h.2.not_mem_condition⟩
  | query cursor table condition =>
    refine ⟨List.cons_ne_nil _ _, ?_, fun he => absurd (Option.some.inj he) (by decide)⟩
    simp only [Statement.words, List.mem_append, List.mem_cons, not_or]
    refine ⟨by decide, hname h.1, by decide, hname h.2.1, ?_⟩
    cases condition with
    | none => exact List.not_mem_nil
    | some e => exact (h.2.2 e rfl).not_mem_condition
  | other ws => exact h.2

/-! ## Procedures -/

/-- A procedure that is written with these arguments and statements is read so. -/
theorem writes_of_statements {p : Procedure} {arguments : Listing Argument}
    {locals : List (List Text)} {statements : List Statement} (hname : IsName p.name)
    (hinside : tokens (Routine.inside p) = arguments.words Argument.words)
    (harguments : arguments.Separated ∧ ∀ a ∈ arguments.entries, a.IsNamed)
    (htakes : p.takesArguments = false → arguments.entries = [])
    (hlocals : p.locals.flatMap tokens = locals.flatMap (· ++ tokens ";"))
    (hlocals' : ∀ s ∈ locals, IsSentence "BEGIN" s)
    (hstatements : p.statements.flatMap tokens = statements.flatMap (·.words ++ tokens ";"))
    (hstatements' : ∀ st ∈ statements, st.IsNamed) :
    Writes p ⟨p.name, arguments, statements⟩ := by
  have hclose : (")" : Text) ∉ tokens (Routine.inside p) := by
    rw [hinside]
    exact Listing.not_mem_words (by decide) fun a ha =>
      (harguments.2 a ha).not_mem (.inr (.inl rfl))
  have hlisting : listing? argument?
      (if p.takesArguments then tokens (Routine.inside p) else []) = some arguments := by
    cases htaken : p.takesArguments with
    | true =>
      rw [if_pos rfl, hinside]
      exact listing?_words harguments.1 (fun a _ => argument?_words a)
        (fun a _ => List.cons_ne_nil _ _) fun a ha => (harguments.2 a ha).not_mem (.inl rfl)
    | false =>
      obtain ⟨entries, commas⟩ := arguments
      obtain rfl : entries = [] := htakes htaken
      obtain rfl : commas = 0 := harguments.1
      rfl
  have hsentences : p.statements.flatMap tokens =
      (statements.map Statement.words).flatMap (· ++ tokens ";") := by
    rw [hstatements, List.flatMap_map]
  have hread : (statements.map Statement.words).map statement = statements := by
    rw [List.map_map]
    exact (List.map_congr_left fun st hst => statement_words (hstatements' st hst)).trans
      (List.map_id statements)
  intro rest
  rw [definition?_append hname hclose hlisting hlocals hlocals' hsentences
    (List.forall_mem_map.2 fun st hst => (hstatements' st hst).isSentence), hread]

end TablePackage.Sql
