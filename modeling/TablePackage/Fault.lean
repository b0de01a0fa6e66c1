import TablePackage.Text

/-!
# Faults of a generation

Why no package is generated. Each fault is of a kind, the kinds form a tree below
`Kind.generation`, and each kind has a message of its own for faults that say nothing more.
-/

namespace TablePackage

namespace Fault

/-- The kinds of faults. -/
inductive Kind
  | generation
  | noActiveEditor
  | selectionFormat
  | schemaParse
  | primaryKey
  | documentUpdate
  deriving DecidableEq

/-- A kind and the kinds above it, up to the root of the tree. -/
def Kind.lineage : Kind → List Kind
  | .generation => [.generation]
  | .primaryKey => [.primaryKey, .schemaParse, .generation]
  | kind => [kind, .generation]

/-- What a fault of this kind says if it says nothing more. -/
def Kind.defaultMessage : Kind → Text
  | .generation => "CRUD generation failed."
  | .noActiveEditor => "No active editor found."
  | .selectionFormat => "Selected text does not match the expected format."
  | .schemaParse => "Failed to parse the table schema."
  | .primaryKey => "Table schema has no usable primary key."
  | .documentUpdate => "Failed to update the document."

/-- The message of a fault of this kind: the detail that is given, unless it is empty. -/
def Kind.message (kind : Kind) : Option Text → Text
  | none | some [] => kind.defaultMessage
  | some (c :: detail) => c :: detail

end Fault

/-- A cause that keeps a package from being generated. -/
inductive Fault
  /-- There is nothing to edit. -/
  | noActiveEditor
  /-- The selection does not open with a table declaration. -/
  | selectionFormat
  /-- The selection names no table or no columns. -/
  | noTableOrColumns
  /-- No column of the table is a key. -/
  | noKeyColumn (table : Text)
  /-- All columns of the table are keys. -/
  | onlyKeyColumns (table : Text)
  /-- The document does not take the new text. -/
  | documentUpdate
  deriving DecidableEq

namespace Fault

/-- The kind of a fault. -/
def kind : Fault → Kind
  | noActiveEditor => .noActiveEditor
  | selectionFormat => .selectionFormat
  | noTableOrColumns => .schemaParse
  | noKeyColumn _ => .primaryKey
  | onlyKeyColumns _ => .primaryKey
  | documentUpdate => .documentUpdate

/-- What a fault says beyond its kind. -/
def detail? : Fault → Option Text
  | noKeyColumn table => some ("Table " ++ table ++ " has no column marked .primarykey.")
  | onlyKeyColumns table =>
    some ("Table " ++ table ++ " has no columns besides its primary key.")
  | _ => none

/-- The message shown to the user. -/
def message (f : Fault) : Text := f.kind.message f.detail?

end Fault

end TablePackage
