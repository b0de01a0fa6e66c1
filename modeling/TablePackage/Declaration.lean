import TablePackage.Schema
import TablePackage.Text.Ascii
import TablePackage.Unicode.Blank
import TablePackage.Unicode.Fold

/-!
# Table declarations

A table is declared by `table_name("T");` and each of its columns by `table_attr("C");`, or by
`table_attr("C").primarykey;` for a key. Keywords are read in any letter case, blanks may stand
between the symbols, and whatever stands between two declarations is skipped.

A selection has to open with the declaration of its table (`opensWithTable`). The columns are
scanned from left to right: a `Cursor` remembers how far a scan has come, `Cursor.next?` reads
up to the end of the next column declaration, and `scan` does so until there is none. Whether
the column is a key is then read off the end of its declaration (`endsAsKey`).

* `column?_length`: a declaration takes at least one character, so a scan comes to its end.
-/

namespace TablePackage

namespace Declaration

open Ascii

/-! ## Declarations -/

/-- Reads `keyword("word")`: the word, and what follows with its blanks skipped. -/
def quotedName? (keyword : Text) (t : Text) : Option (Text × Text) := do
  let t ← keyword? keyword t
  let t ← char? '(' (skipBlanks t)
  let t ← char? '"' (skipBlanks t)
  let (name, t) ← word? t
  let t ← char? '"' t
  let t ← char? ')' (skipBlanks t)
  return (name, skipBlanks t)

/-- Reads the declaration of a table: its name, and the rest. -/
def table? (t : Text) : Option (Text × Text) := do
  let (name, t) ← quotedName? "table_name" t
  let t ← char? ';' t
  return (name, t)

/-- Reads the mark of a key, if there is one: whether there is, and the rest. -/
def keyMark (t : Text) : Bool × Text :=
  match keyword? ".primarykey" t with
  | some t => (true, skipBlanks t)
  | none => (false, t)

/-- Reads the declaration of a column: the column, and the rest. -/
def column? (t : Text) : Option (Column × Text) := do
  let (name, t) ← quotedName? "table_attr" t
  let (isKey, t) := keyMark t
  let t ← char? ';' t
  return (⟨name, isKey⟩, t)

theorem quotedName?_length {k t n r : Text} (h : quotedName? k t = some (n, r)) :
    r.length < t.length := by
  simp only [quotedName?, Option.bind_eq_bind, Option.bind_eq_some_iff, Option.pure_def,
    Option.some.injEq, Prod.mk.injEq, Prod.exists] at h
  obtain ⟨t₁, h₁, t₂, h₂, t₃, h₃, _, t₄, h₄, t₅, h₅, t₆, h₆, _, rfl⟩ := h
  have := keyword?_length h₁
  have := char?_length h₂
  have := char?_length h₃
  have := Text.run?_length h₄
  have := char?_length h₅
  have := char?_length h₆
  have := length_skipBlanks t₁
  have := length_skipBlanks t₂
  have := length_skipBlanks t₅
  have := length_skipBlanks t₆
  omega

theorem length_keyMark (t : Text) : (keyMark t).2.length ≤ t.length := by
  unfold keyMark
  split
  · rename_i r h
    have := keyword?_length h
    have := length_skipBlanks r
    dsimp only
    omega
  · simp

theorem column?_length {t r : Text} {c : Column} (h : column? t = some (c, r)) :
    r.length < t.length := by
  simp only [column?, Option.bind_eq_bind, Option.bind_eq_some_iff, Option.pure_def,
    Option.some.injEq, Prod.mk.injEq, Prod.exists] at h
  obtain ⟨n, t₁, h₁, t₂, h₂, _, rfl⟩ := h
  have := quotedName?_length h₁
  have := length_keyMark t₁
  have := char?_length h₂
  omega

/-- Whether a text opens, after blanks, with the declaration of a table. -/
def opensWithTable (t : Text) : Bool := (table? (skipBlanks t)).isSome

/-- The name in the first declaration of a table; it is empty if there is none. -/
def tableName (t : Text) : Text := ((Text.find? table? t).map (·.value)).getD []

/-! ## Endings -/

/-- Reads the mark of a key with the semicolon behind it, where nothing but one line feed may
    follow. Letters and blanks are those of all scripts here. -/
def keyEnding? (t : Text) : Option (Unit × Text) := do
  let t ← Text.after? Unicode.sameLetter ".primarykey" t
  let t ← char? ';' (t.dropWhile Unicode.isBlank)
  if t = [] ∨ t = ['\n'] then return ((), t) else none

/-- Whether the text of a declaration ends like that of a key. -/
def endsAsKey (t : Text) : Bool := (Text.find? keyEnding? t).isSome

end Declaration

/-! ## Scanning -/

/-- A column declaration in a text: the column, the offsets where it starts and ends, and how
    it is written. -/
structure ColumnMatch where
  column : Column
  start : Nat
  stop : Nat
  text : Text
  deriving DecidableEq

/-- How far a scan has come: how many characters are behind it, and those ahead. -/
structure Cursor where
  offset : Nat
  rest : Text
  deriving DecidableEq

namespace Cursor

/-- The start of a text. -/
def ofText (t : Text) : Cursor := ⟨0, t⟩

/-- The next column declaration, and the cursor behind it. -/
def next? (c : Cursor) : Option (ColumnMatch × Cursor) :=
  (Text.find? Declaration.column? c.rest).map fun f =>
    let start := c.offset + f.before.length
    let stop := start + f.taken.length
    let column := { f.value with isKey := Declaration.endsAsKey f.taken }
    (⟨column, start, stop, f.taken⟩, ⟨stop, f.rest⟩)

theorem next?_length {c d : Cursor} {m : ColumnMatch} (h : c.next? = some (m, d)) :
    d.rest.length < c.rest.length := by
  obtain ⟨f, hf, he⟩ := Option.map_eq_some_iff.1 h
  cases he
  exact Text.find?_rest_length Declaration.column?_length hf

/-- All column declarations ahead of the cursor. -/
def scan (c : Cursor) : List ColumnMatch :=
  match _h : c.next? with
  | none => []
  | some (m, d) => m :: scan d
termination_by c.rest.length
decreasing_by exact next?_length _h

end Cursor

namespace Declaration

/-- All column declarations of a text, from left to right. -/
def scan (t : Text) : List ColumnMatch := (Cursor.ofText t).scan

/-- Advances cursors in turn, as `schedule` names them by their numbers: what each advance
    finds, if it finds anything. -/
def interleave (cursors : List Cursor) : List Nat → List (Option ColumnMatch)
  | [] => []
  | i :: schedule =>
    match cursors[i]?.bind Cursor.next? with
    | none => none :: interleave cursors schedule
    | some (m, c) => some m :: interleave (cursors.set i c) schedule

end Declaration

/-! ## Schemas -/

namespace Schema

/-- The table that a text declares, without any check. -/
def ofText (t : Text) : Schema :=
  ofColumns (Declaration.tableName t) ((Declaration.scan t).map (·.column))

/-- What the extraction of a schema tells about it. -/
def extractionLog (s : Schema) : List LogEntry :=
  [⟨.debug, .extraction,
    "Extracted table '" ++ s.table ++ "' with " ++ Text.ofNat s.columns.length ++
      " columns (primary key: '" ++ s.key ++ "')"⟩]

end Schema

end TablePackage
