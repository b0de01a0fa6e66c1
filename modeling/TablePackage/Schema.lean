import TablePackage.Fault
import TablePackage.Log

/-!
# Table schemas

A table with its columns in the order of their declaration, and the column by which its rows
are looked up. Any number of columns may be flagged as keys; the lookup column is named apart.
-/

namespace TablePackage

/-- A column of a table. -/
structure Column where
  name : Text
  isKey : Bool := false
  deriving DecidableEq

/-- A table. `key` names the lookup column; it is empty if there is none. -/
structure Schema where
  table : Text
  columns : List Column
  key : Text := []
  deriving DecidableEq

namespace Schema

/-- The names of all columns. -/
def columnNames (s : Schema) : List Text := s.columns.map (·.name)

/-- The columns flagged as keys. -/
def keyColumns (s : Schema) : List Column := s.columns.filter (·.isKey)

/-- The columns not flagged as keys. -/
def valueColumns (s : Schema) : List Column := s.columns.filter (!·.isKey)

/-- The schema of a table with these columns: rows are looked up by the last column flagged
    as a key. -/
def ofColumns (table : Text) (columns : List Column) : Schema :=
  ⟨table, columns, (((columns.filter (·.isKey)).getLast?).map (·.name)).getD []⟩

/-! ## Validation -/

/-- The warning for a table with several columns flagged as keys. -/
def keyWarnings (s : Schema) : List LogEntry :=
  if s.keyColumns.length > 1 then
    [⟨.warning, .extraction,
      "Table " ++ s.table ++ " flags several primary keys (" ++
        Text.join ", " (s.keyColumns.map (·.name)) ++ "); using " ++ s.key⟩]
  else []

/-- Whether a schema names a table and columns. -/
def isComplete (s : Schema) : Bool := s.table ≠ [] && s.columns ≠ []

/-- What keeps a package from being made for a table. A table needs a name and a column;
    under `requireKey` it also needs a lookup column, and a column that is no key. -/
def fault? (s : Schema) (requireKey : Bool) : Option Fault :=
  -- What is missing altogether is told first, whatever is required.
  if !s.isComplete then some .noTableOrColumns
  else if !requireKey then none
  else if s.key = [] then some (.noKeyColumn s.table)
  else if s.valueColumns = [] then some (.onlyKeyColumns s.table)
  else none

/-- What a validation tells: nothing about a table without a name or columns. -/
def validationLog (s : Schema) : List LogEntry := if s.isComplete then s.keyWarnings else []

end Schema

end TablePackage
