import TablePackage.Declaration
import TablePackage.Package

/-!
# Generation

From a selected text to the package of the table that it declares, and from a document to the
document with the package after the selection.
-/

namespace TablePackage

/-- A selected text, the table that it declares, and the table's package. -/
structure Generated where
  selection : Text
  schema : Schema
  package : Package
  deriving DecidableEq

namespace Generated

/-- The package of a schema, for a selected text. -/
def ofSchema (selection : Text) (n : Naming) (s : Schema) : Generated :=
  ⟨selection, s, Package.ofSchema n s⟩

/-- What the generation puts after the selection. -/
def insertion (g : Generated) : Text :=
  "\n\n" ++ g.package.declarations ++ "\n\n" ++ g.package.definitions

/-- The selection with the package after it. -/
def expanded (g : Generated) : Text := g.selection ++ g.insertion

/-- The document with the package after the first occurrence of the selection. -/
def expandIn (g : Generated) (document : Text) : Text :=
  Text.replaceFirst g.selection g.expanded document

/-- The package for a selected text, or what keeps it from being made. -/
def build (selection : Text) (n : Naming) (requireKey : Bool) : Except Fault Generated :=
  if !Declaration.opensWithTable selection then .error .selectionFormat
  else
    let schema := Schema.ofText selection
    match schema.fault? requireKey with
    | some fault => .error fault
    | none => .ok (ofSchema selection n schema)

/-- What the making of a package tells. -/
def buildLog (selection : Text) : List LogEntry :=
  if !Declaration.opensWithTable selection then []
  else
    let schema := Schema.ofText selection
    schema.extractionLog ++ schema.validationLog

end Generated

end TablePackage
