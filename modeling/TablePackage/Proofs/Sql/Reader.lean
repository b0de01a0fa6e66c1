import TablePackage.Proofs.Sql.Token

/-!
# Reading SQL

A reader for the body of a package: its procedures with their parameters, and the statements that
insert, update, delete or query rows. It goes by the places of the keywords only, so that any word
may be the name of a table or of a column. Of a list, the entries are read, and the commas counted.

* `listing?_intercalate`: lists are read entry by entry;
* `sentences?_flatMap`: statements are read up to their semicolons;
* `definition?_append`: the definition of a procedure;
* `package?_append`: the definitions of a package.
-/

namespace TablePackage.Sql

variable {α : Type} {k stop w : Text} {rest s ws : List Text} {ss : List (List Text)}

/-! ## Statements and procedures -/

/-- A list as it is written. -/
structure Listing (α : Type) where
  entries : List α
  commas : Nat
  deriving DecidableEq

/-- A list with a comma between two entries. -/
def Listing.of (xs : List α) : Listing α := ⟨xs, xs.length - 1⟩

/-- A parameter with the type of a column. -/
structure Argument where
  name : Text
  table : Text
  column : Text
  deriving DecidableEq

/-- A column and the value that it is compared with, or set to. -/
structure Equation where
  column : Text
  value : Text
  deriving DecidableEq

/-- A statement. Nothing is read of those that neither change nor query a table. -/
inductive Statement
  | insert (table : Text) (columns values : Listing Text)
  | update (table : Text) (assignments : Listing Equation) (condition : Equation)
  | delete (table : Text) (condition : Equation)
  | query (cursor table : Text) (condition : Option Equation)
  | other (ws : List Text)
  deriving DecidableEq

/-- The definition of a procedure. -/
structure Definition where
  name : Text
  arguments : Listing Argument
  statements : List Statement
  deriving DecidableEq

/-! ## Readers -/

/-- What follows a phrase. -/
def phrase? (k : Text) (ws : List Text) : Option (List Text) := (tokens k).isPrefixOf? ws

/-- One token, and what follows it. -/
def token? : List Text → Option (Text × List Text)
  | [] => none
  | w :: ws => some (w, ws)

/-- The token of a text that is one. -/
def word? : List Text → Option Text
  | [w] => some w
  | _ => none

/-- What stands before the first `stop`, and what follows it. -/
def upTo? (stop : Text) : List Text → Option (List Text × List Text)
  | [] => none
  | w :: ws =>
    if w = stop then some ([], ws)
    else (upTo? stop ws).map fun (before, rest) => (w :: before, rest)

/-- What stands in parentheses, and what follows them. -/
def parenthesized? (ws : List Text) : Option (List Text × List Text) :=
  (phrase? "(" ws).bind (upTo? ")")

/-- The entries between commas, and the number of commas. -/
def listing? (item? : List Text → Option α) (ws : List Text) : Option (Listing α) :=
  if ws = [] then some ⟨[], 0⟩
  else ((ws.splitOn comma).mapM item?).map (⟨·, ws.count comma⟩)

def argument? : List Text → Option Argument
  | [] => none
  | name :: ws => do
    let (table, ws) ← token? (← phrase? "IN" ws)
    let (column, ws) ← token? (← phrase? "." ws)
    if ws = tokens "%TYPE" then return ⟨name, table, column⟩ else none

def equation? : List Text → Option Equation
  | [] => none
  | column :: ws => do
    let value ← word? (← phrase? "=" ws)
    return ⟨column, value⟩

def condition? (ws : List Text) : Option Equation := (phrase? "WHERE" ws).bind equation?

def insert? (ws : List Text) : Option Statement := do
  let (table, ws) ← token? (← phrase? "INSERT INTO" ws)
  let (columns, ws) ← parenthesized? ws
  let (values, ws) ← parenthesized? (← phrase? "VALUES" ws)
  if ws = [] then return .insert table (← listing? word? columns) (← listing? word? values)
  else none

def update? (ws : List Text) : Option Statement := do
  let (table, ws) ← token? (← phrase? "UPDATE" ws)
  let ws ← phrase? "SET" ws
  -- The condition has four tokens, and stands behind all assignments.
  let behind := ws.length - 4
  return .update table (← listing? equation? (ws.take behind)) (← condition? (ws.drop behind))

def delete? (ws : List Text) : Option Statement := do
  let (table, ws) ← token? (← phrase? "DELETE FROM" ws)
  return .delete table (← condition? ws)

def query? (ws : List Text) : Option Statement := do
  let (cursor, ws) ← token? (← phrase? "OPEN" ws)
  let (table, ws) ← token? (← phrase? "FOR SELECT * FROM" ws)
  if ws = [] then return .query cursor table none
  else return .query cursor table (some (← condition? ws))

/-- The statement that a sentence is. -/
def statement (ws : List Text) : Statement :=
  ((insert? ws).or ((update? ws).or ((delete? ws).or (query? ws)))).getD (.other ws)

/-- The sentences up to one that would start with `stop`, and what follows this; `sentence` has
    been read before. -/
def sentences? (stop : Text) (sentence : List Text) :
    List Text → Option (List (List Text) × List Text)
  | [] => none
  | w :: ws =>
    if sentence = [] ∧ w = stop then some ([], ws)
    else if w = (";" : Text) then
      (sentences? stop [] ws).map fun (sentences, rest) => (sentence :: sentences, rest)
    else sentences? stop (sentence ++ [w]) ws

/-- The definition of a procedure, and what follows it. -/
def definition? (ws : List Text) : Option (Definition × List Text) := do
  let (name, ws) ← token? (← phrase? "PROCEDURE" ws)
  let (arguments, ws) := (parenthesized? ws).getD ([], ws)
  let (_, ws) ← sentences? "BEGIN" [] (← phrase? "IS" ws)
  let (sentences, ws) ← sentences? "END" [] ws
  let (last, ws) ← token? ws
  let ws ← phrase? ";" ws
  if last = name then
    return (⟨name, ← listing? argument? arguments, sentences.map statement⟩, ws)
  else none

/-- The definitions one after the other, and what follows them. -/
def definitions? (ws : List Text) : Option (List Definition × List Text) :=
  match definition? ws with
  | none => some ([], ws)
  | some (d, rest) =>
    if rest.length < ws.length then
      (definitions? rest).map fun (ds, rest) => (d :: ds, rest)
    else none
termination_by ws.length

/-- The name of a package, and the definitions in its body. -/
def package? (t : Text) : Option (Text × List Definition) := do
  let (name, ws) ← token? (← phrase? "CREATE OR REPLACE PACKAGE BODY" (tokens t))
  let (definitions, ws) ← definitions? (← phrase? "IS" ws)
  let (last, ws) ← token? (← phrase? "END" ws)
  if last = name ∧ ws = tokens ";" then return (name, definitions) else none

/-! ## Phrases and lists -/

@[simp] theorem phrase?_append (k : Text) (ws : List Text) : phrase? k (tokens k ++ ws) = some ws :=
  List.isPrefixOf?_eq_some_iff_append_eq.2 rfl

theorem upTo?_append (h : stop ∉ ws) (rest : List Text) :
    upTo? stop (ws ++ stop :: rest) = some (ws, rest) := by
  induction ws with
  | nil => exact if_pos rfl
  | cons w ws ih =>
    rw [List.mem_cons, not_or] at h
    rw [List.cons_append, upTo?, if_neg (Ne.symm h.1), ih h.2]
    rfl

theorem parenthesized?_append (h : (")" : Text) ∉ ws) (rest : List Text) :
    parenthesized? (tokens "(" ++ (ws ++ (tokens ")" ++ rest))) = some (ws, rest) := by
  rw [parenthesized?, phrase?_append, Option.bind_some]
  exact upTo?_append h rest

/-- Lists are read entry by entry, with one comma less than there are entries. -/
theorem listing?_intercalate {item? : List Text → Option α} {wss : List (List Text)} {xs : List α}
    (h : List.Forall₂ (fun ws x => item? ws = some x ∧ ws ≠ [] ∧ comma ∉ ws) wss xs) :
    listing? item? ([comma].intercalate wss) = some (.of xs) := by
  have hentries := Lists.mapM_eq_some (h.imp fun _ _ hws => hws.1)
  have hcomma : ∀ ws ∈ wss, comma ∉ ws := fun ws hws =>
    (Lists.forall_mem_of_forall₂ h fun _ _ hws => hws.2.2) ws hws
  have hlength := h.length_eq
  cases h with
  | nil => rfl
  | @cons ws x wss xs hws _ =>
    have hparts := List.splitOn_intercalate comma hcomma (List.cons_ne_nil ws wss)
    have hcount := Lists.length_splitOn comma ([comma].intercalate (ws :: wss))
    rw [hparts] at hcount
    have hne : [comma].intercalate (ws :: wss) ≠ [] := fun hnil => by
      rw [hnil] at hparts
      exact hws.2.1 (List.cons.inj hparts).1.symm
    rw [listing?, if_neg hne, hparts, hentries, Option.map_some, Listing.of, ← hlength, hcount,
      Nat.add_sub_cancel]

/-! ## Sentences -/

/-- A sentence without its semicolon; it does not start with `stop`. -/
structure IsSentence (stop : Text) (s : List Text) : Prop where
  ne_nil : s ≠ []
  semicolon_not_mem : (";" : Text) ∉ s
  head?_ne : s.head? ≠ some stop

/-- A sentence that has been begun is read up to its semicolon. -/
theorem sentences?_append (hs : (";" : Text) ∉ s) {begun : List Text} (hne : begun ≠ [])
    (rest : List Text) : sentences? stop begun (s ++ (tokens ";" ++ rest)) =
      (sentences? stop [] rest).map fun (ss, rest) => ((begun ++ s) :: ss, rest) := by
  induction s generalizing begun with
  | nil =>
    change sentences? stop begun (";" :: rest) = _
    rw [sentences?, if_neg (fun h => hne h.1), if_pos rfl, List.append_nil]
  | cons w s ih =>
    rw [List.mem_cons, not_or] at hs
    rw [List.cons_append, sentences?, if_neg (fun h => hne h.1), if_neg (Ne.symm hs.1),
      ih hs.2 (List.append_ne_nil_of_right_ne_nil begun (List.cons_ne_nil w [])),
      List.append_assoc, List.singleton_append]

/-- Sentences are read one after the other. -/
theorem sentences?_flatMap (h : ∀ s ∈ ss, IsSentence stop s) (rest : List Text) :
    sentences? stop [] (ss.flatMap (· ++ tokens ";") ++ stop :: rest) = some (ss, rest) := by
  induction ss with
  | nil => exact if_pos ⟨rfl, rfl⟩
  | cons s ss ih =>
    obtain ⟨hs, hss⟩ := List.forall_mem_cons.1 h
    obtain ⟨w, s, rfl⟩ := List.exists_cons_of_ne_nil hs.ne_nil
    have hsemicolon := hs.semicolon_not_mem
    rw [List.mem_cons, not_or] at hsemicolon
    have hstop : w ≠ stop := fun hw => hs.head?_ne (by rw [hw]; rfl)
    rw [List.flatMap_cons, List.append_assoc, List.append_assoc, List.cons_append, sentences?,
      if_neg (fun h => hstop h.2), if_neg (Ne.symm hsemicolon.1), List.nil_append,
      sentences?_append hsemicolon.2 (List.cons_ne_nil w []), ih hss]
    rfl

/-! ## Procedures -/

variable {p : Procedure} {arguments : Listing Argument} {locals sentences : List (List Text)}

/-- What a procedure writes between its parentheses is read as its arguments; without parentheses,
    there are none. -/
theorem parenthesized?_argumentTokens (h : (")" : Text) ∉ tokens (Routine.inside p))
    (rest : List Text) :
    (parenthesized? (argumentTokens p ++ (tokens "IS" ++ rest))).getD
        ([], argumentTokens p ++ (tokens "IS" ++ rest)) =
      (if p.takesArguments then tokens (Routine.inside p) else [], tokens "IS" ++ rest) := by
  rw [argumentTokens]
  split
  · rw [List.append_assoc, List.append_assoc, parenthesized?_append h, Option.getD_some]
  · rfl

/-- The definition of a procedure is read as it is written: its arguments, and its statements. -/
theorem definition?_append (hname : Ascii.IsName p.name)
    (hinside : (")" : Text) ∉ tokens (Routine.inside p))
    (harguments : listing? argument?
      (if p.takesArguments then tokens (Routine.inside p) else []) = some arguments)
    (hlocals : p.locals.flatMap tokens = locals.flatMap (· ++ tokens ";"))
    (hlocals' : ∀ s ∈ locals, IsSentence "BEGIN" s)
    (hstatements : p.statements.flatMap tokens = sentences.flatMap (· ++ tokens ";"))
    (hstatements' : ∀ s ∈ sentences, IsSentence "END" s) (rest : List Text) :
    definition? (tokens (Routine.written p) ++ rest) =
      some (⟨p.name, arguments, sentences.map statement⟩, rest) := by
  have hlocal : ∀ rest, sentences? "BEGIN" [] (locals.flatMap (· ++ tokens ";") ++
      (tokens "BEGIN" ++ rest)) = some (locals, rest) := sentences?_flatMap hlocals'
  have hsentence : ∀ rest, sentences? "END" [] (sentences.flatMap (· ++ tokens ";") ++
      (tokens "END" ++ rest)) = some (sentences, rest) := sentences?_flatMap hstatements'
  rw [tokens_written hname, hlocals, hstatements]
  simp only [List.append_assoc, List.cons_append, definition?, Option.bind_eq_bind,
    phrase?_append, Option.bind_some, token?, parenthesized?_argumentTokens hinside, hlocal,
    hsentence, harguments, if_true, Option.pure_def]

/-! ## Packages -/

/-- The definition of `p` is read as `d`, whatever follows it. -/
def Writes (p : Procedure) (d : Definition) : Prop :=
  ∀ rest, definition? (tokens (Routine.written p) ++ rest) = some (d, rest)

/-- What is read as a definition has tokens. -/
theorem Writes.length_lt {d : Definition} (h : Writes p d) (rest : List Text) :
    rest.length < (tokens (Routine.written p) ++ rest).length := by
  have hne : tokens (Routine.written p) ≠ [] := fun hnil => by
    have hread := h []
    rw [hnil] at hread
    cases hread
  rw [List.length_append]
  exact Nat.lt_add_of_pos_left (List.length_pos_iff.2 hne)

variable {ps : List Procedure} {ds : List Definition}

/-- Definitions are read one after the other. -/
theorem definitions?_flatMap (h : List.Forall₂ Writes ps ds) (hrest : definition? rest = none) :
    definitions? ((ps.map Routine.written).flatMap tokens ++ rest) = some (ds, rest) := by
  induction h with
  | nil =>
    rw [List.map_nil, List.flatMap_nil, List.nil_append, definitions?, hrest]
  | cons hp _ ih =>
    rw [List.map_cons, List.flatMap_cons, List.append_assoc, definitions?, hp]
    dsimp only
    rw [if_pos (hp.length_lt _), ih]
    rfl

/-- The body of a package is read as it is written. -/
theorem package?_append {n : Text} (hn : Ascii.IsName n) (h : List.Forall₂ Writes ps ds) :
    package? (Package.block ("CREATE OR REPLACE PACKAGE BODY " ++ n ++ " IS") n
      (ps.map (·.definition))) = some (n, ds) := by
  have hread : definitions? ((ps.map Routine.written).flatMap tokens ++
      (tokens "END" ++ n :: tokens ";")) = some (ds, tokens "END" ++ n :: tokens ";") :=
    definitions?_flatMap h rfl
  simp only [package?, tokens_block hn, Option.bind_eq_bind, phrase?_append, Option.bind_some,
    token?, hread, and_self, if_true, Option.pure_def]

end TablePackage.Sql
