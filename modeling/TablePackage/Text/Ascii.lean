import TablePackage.Text

/-!
# Characters of the ASCII alphabet

The description language and the names it declares know ASCII only: its blanks, its word
characters, and its letters, whose case its keywords ignore.
-/

namespace TablePackage.Ascii

/-- The six blanks: tab, line feed, vertical tab, form feed, carriage return and space. -/
def isBlank (c : Char) : Bool := c.toNat = 32 || (9 ≤ c.toNat && c.toNat ≤ 13)

/-- A letter, a digit or the underscore. -/
def isWord (c : Char) : Bool := c.isAlphanum || c = '_'

/-- The text without the blanks at its start. -/
def skipBlanks (t : Text) : Text := t.dropWhile isBlank

/-- What follows `keyword`, which is in lower case, in any letter case. -/
def keyword? (keyword : Text) : Text → Option Text :=
  Text.after? (fun k c => k == c.toLower) keyword

/-- What follows one given character. -/
def char? (c : Char) : Text → Option Text
  | [] => none
  | d :: t => if d = c then some t else none

/-- The word at the start of a text, and the rest. -/
def word? : Text → Option (Text × Text) := Text.run? isWord

theorem length_skipBlanks (t : Text) : (skipBlanks t).length ≤ t.length :=
  Text.length_dropWhile_le ..

theorem keyword?_length {k t r : Text} (h : keyword? k t = some r) :
    t.length = k.length + r.length := Text.after?_length h

theorem char?_length {c : Char} {t r : Text} (h : char? c t = some r) :
    t.length = r.length + 1 := by
  cases t with
  | nil => simp [char?] at h
  | cons d t =>
    simp only [char?, Option.ite_none_right_eq_some, Option.some.injEq] at h
    simp [h.2]

end TablePackage.Ascii
