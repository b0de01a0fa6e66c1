import TablePackage.Surface

/-!
# Buffers

A document in memory. Its selection lies between two offsets, which may be any integers and
stay as they are when the document changes.
-/

namespace TablePackage

/-- A document in memory with the offsets of its selection, and how often it was replaced. A
    buffer may refuse to be replaced. -/
structure Buffer where
  text : Text
  start : Option Int
  stop : Option Int
  replacements : Nat := 0
  refuses : Bool := false
  deriving DecidableEq

namespace Buffer

/-- A buffer with the selection between two offsets; if the second is missing, the selection
    goes on to the end. -/
def ofText (t : Text) (start : Option Int := some 0) (stop : Option Int := none) : Buffer where
  text := t
  start := start
  stop := some (stop.getD t.length)

/-- A buffer with the first occurrence of a text selected, if there is one. -/
def selecting? (t selected : Text) : Option Buffer :=
  (Text.cut? selected t).map fun (before, _) =>
    let start : Int := before.length
    ofText t (some start) (some (start + selected.length))

/-- Why there is no buffer with a text selected. -/
inductive SelectingFault
  | notPart
  deriving DecidableEq

/-- The wording of a fault. -/
def SelectingFault.message : SelectingFault → Text
  | notPart => "selected text is not part of the buffer"

/-- A buffer with the first occurrence of a text selected; it is a fault if there is none. -/
def selecting (t selected : Text) : Except SelectingFault Buffer :=
  match selecting? t selected with
  | some b => .ok b
  | none => .error .notPart

/-- The text between the two offsets. -/
def selection (b : Buffer) : Text := slice b.text b.start b.stop

/-- The buffer with the selection between other offsets. -/
def select (b : Buffer) (start stop : Option Int) : Buffer :=
  { b with start := start, stop := stop }

/-- The buffer with another document, unless it refuses that. -/
def replaceAll? (b : Buffer) (t : Text) : Option Buffer :=
  if b.refuses then none else some { b with text := t, replacements := b.replacements + 1 }

end Buffer

/-- A buffer is a surface that can always be read. -/
instance : Surface Buffer where
  selection b := .ok b.selection
  text b := .ok b.text
  replaceAll t b :=
    match b.replaceAll? t with
    | some b => .ok b
    | none => .error (.unchanged [])

end TablePackage
