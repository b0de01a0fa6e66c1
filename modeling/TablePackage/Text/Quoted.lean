import TablePackage.Unicode.Printable
import TablePackage.Text.CodePoint

/-!
# Quoted texts

The form in which messages show a text that may hold anything: between quotes, with escapes
for what has no glyph. The quotes are single, unless the text has single quotes and no double
ones.
-/

namespace TablePackage.Quoted

/-- A number in lower-case hexadecimal, with zeros up to the given width. -/
def hex (width n : Nat) : Text :=
  let digits := Nat.toDigits 16 n
  List.replicate (width - digits.length) '0' ++ digits

/-- The quote to put around a text with these characters. -/
def quoteFor (t : Text) : Char := if '\'' ∈ t ∧ '"' ∉ t then '"' else '\''

/-- One character between `quote`s, if it has an escape of its own. -/
def shortEscape? (quote c : Char) : Option Text :=
  if c = quote ∨ c = '\\' then some ['\\', c]
  else if c = '\t' then some ['\\', 't']
  else if c = '\n' then some ['\\', 'n']
  else if c = '\r' then some ['\\', 'r']
  else none

/-- The shortest escape that holds a number. -/
def escapeNumber (n : Nat) : Text :=
  if n < 0x100 then ['\\', 'x'] ++ hex 2 n
  else if n < 0x10000 then ['\\', 'u'] ++ hex 4 n
  else ['\\', 'U'] ++ hex 8 n

/-- One character between `quote`s: as it is if it is one of those that are shown, else by an
    escape. -/
def escape (isShown : Char → Bool) (quote c : Char) : Text :=
  match shortEscape? quote c with
  | some t => t
  | none => if isShown c then [c] else escapeNumber c.toNat

/-- A text between quotes. -/
def ofText (t : Text) : Text :=
  let quote := quoteFor t
  [quote] ++ t.flatMap (escape Unicode.isPrintable quote) ++ [quote]

/-- Whether a character is printable ASCII. -/
def isPlain (c : Char) : Bool := 32 ≤ c.toNat && c.toNat < 127

/-- A text between quotes, in ASCII. -/
def asciiOfText (t : Text) : Text :=
  let quote := quoteFor t
  [quote] ++ t.flatMap (escape isPlain quote) ++ [quote]

/-- A sequence of code points between quotes; a surrogate has no glyph. -/
def ofCodePoints (s : CodePoints) : Text :=
  let quote := quoteFor s.shown
  let escapePoint : CodePoint → Text
    | .char c => escape Unicode.isPrintable quote c
    | .surrogate n => escapeNumber n
  [quote] ++ s.flatMap escapePoint ++ [quote]

/-- A sequence of bytes between quotes, marked with `b`: printable ASCII as it is. -/
def ofBytes (bytes : List UInt8) : Text :=
  let chars := bytes.map fun b => Char.ofNat b.toNat
  let quote := quoteFor chars
  ['b', quote] ++ chars.flatMap (escape isPlain quote) ++ [quote]

end TablePackage.Quoted
