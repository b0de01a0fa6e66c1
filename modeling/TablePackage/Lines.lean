import TablePackage.Text

/-!
# Lines

A text is cut into lines after each `\r\n`, each other `\r`, and each other `\n`. Lines keep
their endings; the last one may have none, and no line is empty.
-/

namespace TablePackage.Lines

/-- The lines of a text, with their endings. -/
def ofText : Text → List Text
  | [] => []
  | '\r' :: '\n' :: t => ['\r', '\n'] :: ofText t
  | c :: t =>
    if c = '\n' ∨ c = '\r' then [c] :: ofText t
    else
      match ofText t with
      | [] => [[c]]
      | line :: lines => (c :: line) :: lines

/-- A text without the line ending at its end. -/
def dropEnding (t : Text) : Text :=
  match t.reverse with
  | '\n' :: '\r' :: r => r.reverse
  | '\n' :: r => r.reverse
  | '\r' :: r => r.reverse
  | _ => t

/-- The lines from number `first` to number `last`, counted from one, without the ending of the
    last one if `last` is given. A first number below one is one; a last number may be negative
    and then counts from the end. Without numbers it is the whole text. -/
def range (t : Text) (first last : Option Int) : Text :=
  if first = none ∧ last = none then t
  else
    let start := max (first.getD 1 - 1) 0
    let selected := (slice (ofText t) (some start) last).flatten
    if last.isSome then dropEnding selected else selected

end TablePackage.Lines
