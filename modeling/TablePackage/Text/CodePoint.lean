import TablePackage.Text

/-!
# Code points

What an escape in a document may stand for: a character, or a *surrogate*, which is half of a
character in another encoding and no character by itself. What is read from a document with
escapes is a list of code points, and it is a text if no surrogate is among them.
-/

namespace TablePackage

/-- A character, or the number of a surrogate. -/
inductive CodePoint
  | char (c : Char)
  | surrogate (n : Nat)
  deriving DecidableEq

/-- A sequence of code points. -/
abbrev CodePoints := List CodePoint

/-- A text is a sequence of code points. -/
instance : Coe Text CodePoints := ⟨List.map .char⟩

namespace CodePoint

/-- The code point with a number. -/
def ofNat? (n : Nat) : Option CodePoint :=
  if h : n.isValidChar then some (.char (Char.ofNatAux n h))
  else if n < 0x110000 then some (.surrogate n) else none

/-- The character that a code point is, if it is one. -/
def char? : CodePoint → Option Char
  | .char c => some c
  | .surrogate _ => none

/-- Whether a code point is a surrogate. -/
def isSurrogate : CodePoint → Bool
  | .char _ => false
  | .surrogate _ => true

/-- The character that is put in the place of a code point where only characters can stand. -/
def shown : CodePoint → Char
  | .char c => c
  | .surrogate _ => '\ufffd'

end CodePoint

namespace CodePoints

/-- The text that a sequence is, if it is one. -/
def text? (s : CodePoints) : Option Text := s.mapM CodePoint.char?

/-- The sequence with a replacement character for each surrogate. -/
def shown (s : CodePoints) : Text := s.map CodePoint.shown

end CodePoints

end TablePackage
