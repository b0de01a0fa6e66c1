import TablePackage.Text
import TablePackage.Unicode.Blank
import TablePackage.Unicode.Fold
import TablePackage.Unicode.Word

/-!
# Routines

What the text of a package says about its procedures. The text may be any text: the package is
looked for by its header and its `END`, and its procedures by theirs. Keywords and names are
compared without regard to case, blanks and word characters are those of all scripts.

A specification has declarations, which end with a semicolon after the parameters; a body has
definitions, with `IS` or `AS` there. What looks like a procedure but goes on differently is
passed over.
-/

namespace TablePackage

/-- The way a parameter is passed. -/
inductive Mode
  | input
  | output
  | inputOutput
  deriving DecidableEq

/-- A parameter of a procedure. -/
structure Parameter where
  name : Text
  mode : Mode := .input
  type : Text
  deriving DecidableEq

/-- A procedure found in the text of a package. -/
structure Routine where
  package : Text
  name : Text
  parameters : List Parameter
  text : Text
  deriving DecidableEq

namespace Routine

/-- The name of a procedure with that of its package. -/
def qualifiedName (r : Routine) : Text := r.package ++ "." ++ r.name

/-- A procedure in one line: its name and those of its parameters. -/
def summary (r : Routine) : Text :=
  r.name ++ "(" ++ Text.join ", " (r.parameters.map (·.name)) ++ ")"

/-! ## Reading keywords and names -/

/-- What follows a word, in any letter case. -/
def word? (word : Text) : Text → Option Text := Text.after? Unicode.sameLetter word

/-- What follows a word that may not be part of a longer one. -/
def wholeWord? (word t : Text) : Option Text :=
  (word? word t).filter fun rest => !rest.head?.any Unicode.isWord

/-- A run of word characters, and what follows it. -/
def name? : Text → Option (Text × Text) := Text.run? Unicode.isWord

/-- What follows the blanks at the start, of which there may be none. -/
def skipBlanks (t : Text) : Text := t.dropWhile Unicode.isBlank

/-- What follows the blanks at the start, of which there is at least one. -/
def blanks? (t : Text) : Option Text := (Text.run? Unicode.isBlank t).map (·.2)

/-- What follows a keyword and the blanks behind it. -/
def keyword? (keyword t : Text) : Option Text := (word? keyword t).bind blanks?

/-- What follows a character. -/
def char? (c : Char) : Text → Option Text
  | d :: t => if d = c then some t else none
  | [] => none

theorem char?_length {c : Char} {t r : Text} (h : char? c t = some r) :
    t.length = r.length + 1 := by
  cases t with
  | nil => simp [char?] at h
  | cons d t =>
    simp only [char?, Option.ite_none_right_eq_some, Option.some.injEq] at h
    simp [h.2]

/-- What follows `IS` or `AS`. -/
def isOrAs? (t : Text) : Option Text := (wholeWord? "AS" t).or (wholeWord? "IS" t)

/-- What follows `END`, a name, and a semicolon. -/
def end? (name t : Text) : Option (Unit × Text) := do
  let t ← keyword? "END" t
  let t ← char? ';' (skipBlanks (← word? name t))
  return ((), t)

/-! ## Packages -/

/-- The header of a package: whether it is that of a body, and the name. -/
structure PackageHeader where
  isBody : Bool
  name : Text
  deriving DecidableEq

/-- What follows `CREATE PACKAGE` or `CREATE OR REPLACE PACKAGE`, and the blanks behind it. -/
def opening? (t : Text) : Option Text := do
  let t ← keyword? "CREATE" t
  -- Where `OR REPLACE` can be read, `PACKAGE` cannot, so it is never to be left out.
  keyword? "PACKAGE" (((keyword? "OR" t).bind (keyword? "REPLACE")).getD t)

/-- The name of a package, with `IS` or `AS` behind it, and what follows. -/
def named? (t : Text) : Option (Text × Text) := do
  let (name, t) ← name? t
  return (name, ← isOrAs? (← blanks? t))

/-- Reads the header of a package: the word `BODY` is a name if no name follows it. -/
def packageHeader? (t : Text) : Option (PackageHeader × Text) :=
  (opening? t).bind fun t =>
    -- Here `BODY` may be the name of the package: the reading as a body is tried first.
    match (keyword? "BODY" t).bind named? with
    | some (name, t) => some (⟨true, name⟩, t)
    | none => (named? t).map fun (name, t) => (⟨false, name⟩, t)

/-- Reads a header of the wanted kind. -/
def wantedHeader? (isBody : Bool) (t : Text) : Option (PackageHeader × Text) :=
  (packageHeader? t).filter fun (header, _) => header.isBody = isBody

/-- The first header of the wanted kind: the name of the package, and what follows. -/
def findPackage (isBody : Bool) (t : Text) : Option (Text × Text) :=
  (Text.find? (wantedHeader? isBody) t).map fun f => (f.value.name, f.rest)

/-- The name of the package of the wanted kind, and its text up to its `END`. -/
def contents? (isBody : Bool) (t : Text) : Option (Text × Text) := do
  let (name, t) ← findPackage isBody t
  match Text.find? (end? name) t with
  | some f => return (name, f.before)
  | none => return (name, t)

/-! ## Parentheses -/

/-- What stands before the parenthesis that closes `depth + 1` open ones, and what follows
    it. -/
def closing? (depth : Nat) : Text → Option (Text × Text)
  | [] => none
  | c :: t =>
    if c = ')' then
      match depth with
      | 0 => some ([], t)
      | depth + 1 => (closing? depth t).map fun (inside, rest) => (c :: inside, rest)
    else
      let depth := if c = '(' then depth + 1 else depth
      (closing? depth t).map fun (inside, rest) => (c :: inside, rest)

/-- Why there is no character at an offset. -/
inductive OffsetFault
  | outOfRange
  /-- The offset is no integer of 64 bits. -/
  | notIndex
  deriving DecidableEq

/-- The wording of a fault. -/
def OffsetFault.message : OffsetFault → Text
  | outOfRange => "string index out of range"
  | notIndex => "cannot fit 'int' into an index-sized integer"

/-- The offset of the parenthesis that closes the one at `start`. A negative start counts from
    the end of the text; the search then runs from there to the end, on to the start, and to
    the end again, and so may the answer be negative. It is an error if there is no character
    at the start. -/
def closingOffset (t : Text) (start : Int) : Except OffsetFault (Option Int) :=
  if start < -Nat.pow 2 63 then .error .notIndex
  else if start < -t.length then .error .outOfRange
  else
    -- A walk from a negative start comes past the end of the text to its start.
    let walk := if start < 0 then t.drop (t.length + start).toNat ++ t else t.drop start.toNat
    match walk with
    | '(' :: walk =>
      .ok ((closing? 0 walk).map fun (inside, _) => start + 1 + inside.length)
    | _ => .ok none

/-! ## Procedures -/

/-- The header of a procedure: its name, its text from the header on, whether a parenthesis
    opens after the name, and what follows. -/
structure Header where
  name : Text
  text : Text
  opens : Bool
  rest : Text
  deriving DecidableEq

/-- Reads the header of a procedure. -/
def header? (t : Text) : Option Header := do
  let (name, u) ← name? (← keyword? "PROCEDURE" t)
  let u := skipBlanks u
  match char? '(' u with
  | some rest => return ⟨name, t, true, rest⟩
  | none => return ⟨name, t, false, u⟩

theorem header?_length {t : Text} {h : Header} (e : header? t = some h) :
    h.rest.length < t.length := by
  simp only [header?, keyword?, blanks?, name?, Option.bind_eq_bind, Option.bind_eq_some_iff,
    Option.map_eq_some_iff, Prod.exists] at e
  obtain ⟨_, ⟨t₁, h₁, a, t₂, h₂, rfl⟩, n, t₃, h₃, e⟩ := e
  have := Text.after?_length h₁
  have := Text.run?_length h₂
  have := Text.run?_length h₃
  have := Text.length_dropWhile_le Unicode.isBlank t₃
  split at e <;> cases e
  · rename_i u hu
    have := char?_length hu
    simp only [skipBlanks] at this
    dsimp only
    omega
  · simp only [skipBlanks]
    omega

/-- The part of a text that is read when `rest` is left. -/
def upTo (rest t : Text) : Text := t.take (t.length - rest.length)

/-- The headers of procedures in a text. A header may start at the start of the text if
    `mayStart` says so, after a blank that is no part of the header before, and after any line
    feed. -/
def headersFrom (mayStart : Bool) : Text → List Header
  | [] => []
  | c :: t =>
    match _h : if mayStart then header? (c :: t) else none with
    -- A header never starts inside the one before it.
    | some h => h :: headersFrom ((upTo h.rest (c :: t)).getLast? = some '\n') h.rest
    | none => headersFrom (Unicode.isBlank c) t
termination_by t => t.length
decreasing_by
  · exact header?_length (Option.ite_none_right_eq_some.1 _h).2
  · simp

/-- The headers of procedures in the contents of a package. -/
def headers (contents : Text) : List Header := headersFrom true contents

/-- The text of the parameters of a procedure, and what follows; a procedure without
    parentheses has none. -/
def parameterSection? (h : Header) : Option (Text × Text) :=
  if h.opens then closing? 0 h.rest else some ([], h.rest)

/-! ## Parameters -/

/-- The upper case of a letter, as far as the words `IN` and `OUT` are concerned: also the
    dotless i is a small letter of `I`. -/
def upper (c : Char) : Char := if c = 'ı' then 'I' else c.toUpper

/-- Whether a word is another one, given in upper case. -/
def isWordOf (upperWord word : Text) : Bool := word.map upper = upperWord

/-- The mode at the start of the words after a name, and the words of the type. -/
def splitMode : List Text → Mode × List Text
  | [] => (.input, [])
  | word :: words =>
    if isWordOf "IN" word then
      match words with
      | next :: rest => if isWordOf "OUT" next then (.inputOutput, rest) else (.input, words)
      | [] => (.input, [])
    else if isWordOf "OUT" word then (.output, words)
    else (.input, word :: words)

/-- The parameter that an entry writes; a blank entry writes none. -/
def parameter? (entry : Text) : Option Parameter :=
  match Text.wordsBy Unicode.isBlank entry with
  | [] => none
  | name :: words =>
    let (mode, type) := splitMode words
    some ⟨name, mode, if type = [] then "unknown" else Text.join " " type⟩

/-- The parameters that are written with commas between them. -/
def parametersOf (t : Text) : List Parameter := (t.splitOn ',').filterMap parameter?

/-! ## Routines -/

/-- Takes blanks off both ends of a text. -/
def trim (t : Text) : Text := Text.trimBy Unicode.isBlank t

/-- The definition that starts with a header, if it is one: it goes on to its `END`, or to the
    end of the package. -/
def definition? (package : Text) (h : Header) : Option Routine := do
  let (inside, rest) ← parameterSection? h
  discard (isOrAs? (skipBlanks rest))
  let stop := match Text.find? (end? h.name) rest with
    | some f => f.rest
    | none => []
  return ⟨package, h.name, parametersOf inside, trim (upTo stop h.text)⟩

/-- The declaration that starts with a header, if it is one: it goes on to a semicolon. -/
def declaration? (package : Text) (h : Header) : Option Routine := do
  let (inside, rest) ← parameterSection? h
  let stop ← char? ';' (skipBlanks rest)
  return ⟨package, h.name, parametersOf inside, trim (upTo stop h.text)⟩

/-- The procedures defined in the body of a package. -/
def ofBody (t : Text) : List Routine :=
  match contents? true t with
  | none => []
  | some (package, contents) => (headers contents).filterMap (definition? package)

/-- The procedures declared in the specification of a package. -/
def ofSpecification (t : Text) : List Routine :=
  match contents? false t with
  | none => []
  | some (package, contents) => (headers contents).filterMap (declaration? package)

end Routine

end TablePackage
