import TablePackage.Number.Literal
import TablePackage.Yaml.Fault

/-!
# Places in a YAML document

A cursor knows the characters ahead of it, and its line and column, by which the structure of
a document is told. The text ahead may end before the document does; whoever comes to its end
then finds the reason for that. The readers here are those for the small parts of a document:
blanks, line breaks, names, addresses and numbers.
-/

namespace TablePackage.Yaml

/-! ## Characters -/

/-- A character that ends a line. -/
def isBreak (c : Char) : Bool :=
  c = '\n' || c = '\r' || c = '\x85' || c = '\u2028' || c = '\u2029'

/-- Whether the end, a space, or a line break is here. -/
def endsItem : Option Char → Bool
  | none => true
  | some c => c = ' ' || isBreak c

/-- Whether the end, a space, a tab, or a line break is here. -/
def endsWord : Option Char → Bool
  | some '\t' => true
  | c => endsItem c

/-- Whether the end or a line break is here. -/
def endsLine : Option Char → Bool
  | none => true
  | some c => isBreak c

/-- A character of names: of directives, anchors and tag handles. -/
def isName (c : Char) : Bool := c.isAlphanum || c = '-' || c = '_'

/-- A character of the addresses in tags. -/
def isAddress (c : Char) : Bool := c.isAlphanum || c ∈ "-;/?:@&=+$,_.!~*'()[]%".toList

/-- The value of a hexadecimal digit. -/
def hexDigit? (c : Char) : Option Nat :=
  if c.isDigit then some (c.toNat - '0'.toNat)
  else
    let d := c.toLower
    if 'a' ≤ d ∧ d ≤ 'f' then some (d.toNat - 'a'.toNat + 10) else none

/-! ## Cursors -/

/-- A place in a document. -/
structure Cursor where
  rest : Text
  /-- Why the text ends before the document does, if it does so. -/
  stop : Option Fault := none
  index : Nat := 0
  line : Nat := 0
  column : Nat := 0

namespace Cursor

/-- The character at the cursor. -/
def peek (c : Cursor) : Option Char := c.rest.head?

/-- The character some places ahead. -/
def peekAt (c : Cursor) (n : Nat) : Option Char := c.rest[n]?

/-- The fault to tell at the cursor: at the end of a text that ends too early, the reason for
    that. -/
def blame (c : Cursor) (f : Fault) : Fault := if c.rest.isEmpty then c.stop.getD f else f

/-- The cursor, unless it is at the end of a text that ends too early. -/
def demand (c : Cursor) : Except Fault Cursor :=
  match c.rest, c.stop with
  | [], some f => .error f
  | _, _ => .ok c

/-- The cursor behind the next character. A carriage return and a line feed are one line break;
    the byte order mark takes no column. -/
def next (c : Cursor) : Cursor :=
  match c.rest with
  | [] => c
  | d :: rest =>
    let c := { c with rest, index := c.index + 1 }
    if isBreak d && !(d = '\r' && rest.head? = some '\n') then
      { c with line := c.line + 1, column := 0 }
    else if d = '\ufeff' then c
    else { c with column := c.column + 1 }

/-- The cursor some characters ahead. -/
def advance (c : Cursor) : Nat → Cursor
  | 0 => c
  | n + 1 => c.next.advance n

/-- The run of characters in a class, and the cursor behind it. -/
def take (p : Char → Bool) (c : Cursor) : Text × Cursor :=
  let t := c.rest.takeWhile p
  (t, c.advance t.length)

/-- The cursor behind a run of characters in a class. -/
def skip (p : Char → Bool) (c : Cursor) : Cursor := (c.take p).2

/-- The line break at the cursor, in the form in which a scalar keeps it, and the cursor behind
    it. The text is empty if there is none. -/
def takeBreak (c : Cursor) : Text × Cursor :=
  match c.rest with
  | '\r' :: '\n' :: _ => (['\n'], c.advance 2)
  | d :: _ =>
    if d = '\u2028' ∨ d = '\u2029' then ([d], c.next)
    else if isBreak d then (['\n'], c.next) else ([], c)
  | [] => ([], c)

/-- Whether a document mark, `---` or `...`, is at the cursor. -/
def atMark (c : Cursor) : Bool :=
  (c.rest.take 3 = ['-', '-', '-'] || c.rest.take 3 = ['.', '.', '.']) && endsWord (c.peekAt 3)

/-- The cursor behind a comment, if there is one. -/
def skipComment (c : Cursor) : Cursor :=
  if c.peek = some '#' then c.skip (!isBreak ·) else c

/-- The cursor behind the rest of a line that may have only blanks and a comment. -/
def finishLine (c : Cursor) : Except Fault Cursor :=
  let c := (c.skip (· = ' ')).skipComment
  if endsLine c.peek then .ok c.takeBreak.2 else .error .unexpectedCharacter

/-- A number, and the cursor behind it. -/
def takeNumber (c : Cursor) : Except Fault (Nat × Cursor) := do
  let (digits, c) := c.take Char.isDigit
  let c ← c.demand
  if digits = [] then throw .directive
  match Literal.integer 10 digits with
  | .ok i => return (i.toNat, c)
  | .error _ => throw (.scalar (.tooManyDigits digits.length))

/-- So many hexadecimal digits as one number, and the cursor behind them. -/
def takeHex (count : Nat) (c : Cursor) : Except Fault (Nat × Cursor) :=
  let digits := (c.rest.take count).takeWhile fun d => (hexDigit? d).isSome
  let c := c.advance digits.length
  if digits.length = count then .ok (Literal.number 16 (digits.filterMap hexDigit?), c)
  else .error (c.blame .malformed)

/-- The bytes of escapes `%xx`, and the cursor behind them. -/
def takePercent : Nat → Cursor → Except Fault (Bytes × Cursor)
  | 0, c => .ok ([], c)
  | fuel + 1, c =>
    if c.peek = some '%' then do
      let (n, c) ← c.next.takeHex 2
      let (bytes, c) ← takePercent fuel (← c.demand)
      return (.ofNat n :: bytes, c)
    else .ok ([], c)

/-- The characters of an address, with its escapes resolved, and the cursor behind it. -/
def takeAddress : Nat → Cursor → Except Fault (Text × Cursor)
  | 0, c => .ok ([], c)
  | fuel + 1, c =>
    if c.peek = some '%' then do
      let (bytes, c) ← c.takePercent c.rest.length
      match Utf8.decode bytes with
      | .error _ => .error .malformed
      | .ok t =>
        let (t', c) ← takeAddress fuel c
        return (t ++ t', c)
    else
      match c.take fun d => isAddress d && d ≠ '%' with
      | ([], c) => .ok ([], c)
      | (t, c) => do
        let (t', c) ← takeAddress fuel c
        return (t ++ t', c)

/-- A non-empty address. -/
def address (c : Cursor) : Except Fault (Text × Cursor) := do
  let (t, c) ← c.takeAddress (c.rest.length + 1)
  let c ← c.demand
  if t = [] then throw .malformed
  return (t, c)

/-- The handle of a tag: `!`, or a name between two exclamation marks. -/
def handle (c : Cursor) : Except Fault (Text × Cursor) := do
  if (← c.demand).peek ≠ some '!' then throw .malformed
  let first ← c.next.demand
  if first.peek = some ' ' then return (['!'], first)
  let (name, last) := first.take isName
  if (← last.demand).peek ≠ some '!' then throw .malformed
  return ('!' :: name ++ ['!'], last.next)

end Cursor

end TablePackage.Yaml
