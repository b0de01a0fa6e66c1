import TablePackage.Lines
import TablePackage.Number.Literal

/-!
# Ranges of lines

A range of lines is written `START:END`, with the numbers of its first and its last line. Lines
are counted from one, and either side may be empty: the range then starts with the first line,
or goes on to the last one.
-/

namespace TablePackage

/-- A range of lines; a missing side is open. -/
structure LineRange where
  first : Option Int := none
  last : Option Int := none
  deriving DecidableEq

namespace LineRange

/-- The lines of a text that are in a range. -/
def select (r : LineRange) (t : Text) : Text := Lines.range t r.first r.last

/-- Why a text is no range. -/
inductive Cause
  | noColon
  | notInteger
  | belowOne
  | reversed
  deriving DecidableEq

/-- A text that is no range. -/
structure Fault where
  cause : Cause
  text : Text
  deriving DecidableEq

/-- A fault's message shows the text as it is. -/
def Fault.message (f : Fault) : Text :=
  let complaint : Text :=
    match f.cause with
    | .noColon => "expected START:END, got "
    | .notInteger => "line numbers must be integers: "
    | .belowOne => "line numbers start at 1: "
    | .reversed => "invalid line range: "
  complaint ++ "'" ++ f.text ++ "'"

/-- One side of a range: nothing, or an integer. -/
def side? (t : Text) : Option (Option Int) :=
  if t = [] then some none else (Literal.int? t).map some

/-- What is wrong with a range, if anything is. -/
def flaw? (r : LineRange) : Option Cause :=
  if r.first.any (· < 1) || r.last.any (· < 1) then some .belowOne
  else
    match r.first, r.last with
    | some first, some last => if last < first then some .reversed else none
    | _, _ => none

/-- The range before and after the first colon of a text. -/
def ofText (t : Text) : Except Fault LineRange :=
  match Text.cut? [':'] t with
  | none => .error ⟨.noColon, t⟩
  | some (start, stop) =>
    match side? start, side? stop with
    | some first, some last =>
      match flaw? ⟨first, last⟩ with
      | none => .ok ⟨first, last⟩
      | some cause => .error ⟨cause, t⟩
    | _, _ => .error ⟨.notInteger, t⟩

end LineRange

end TablePackage
