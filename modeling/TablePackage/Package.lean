import TablePackage.Naming
import TablePackage.Procedure
import TablePackage.Schema

/-!
# Packages

The package of a table: procedures to create, update and delete a row, and to read one row or
all of them, with the texts of its specification and its body.

Nothing is checked here: a table without a lookup column gets statements such as
`WHERE  = u_`.
-/

namespace TablePackage

/-- A package with the texts of its specification and body. -/
structure Package where
  table : Text
  name : Text
  declarations : Text
  definitions : Text
  procedures : List Procedure
  deriving DecidableEq

namespace Package

/-! ## The procedures of a table -/

/-- The parameter for a column, named with `mark` before the column's name. -/
def parameter (mark table column : Text) : Text :=
  Procedure.statementIndent ++ mark ++ column ++ " IN " ++ table ++ "." ++ column ++ "%TYPE"

/-- Items with commas between them. -/
def commaList (items : List Text) : Text := Text.join ", " items

/-- Inserts a row with all columns but the keys. -/
def createProcedure (n : Naming) (s : Schema) : Procedure where
  name := "create_" ++ s.table
  parameters := s.valueColumns.map fun c => parameter n.create s.table c.name
  statements :=
    ["INSERT INTO " ++ s.table ++ " (" ++ commaList (s.valueColumns.map (·.name)) ++ ")",
      "VALUES (" ++ commaList (s.valueColumns.map (n.create ++ ·.name)) ++ ");",
      "COMMIT;"]

/-- Sets all columns but the keys in the row with the given key. -/
def updateProcedure (n : Naming) (s : Schema) : Procedure where
  name := "update_" ++ s.table
  parameters :=
    parameter n.update s.table s.key ::
      s.valueColumns.map fun c => parameter n.update s.table c.name
  statements :=
    let assignments := s.valueColumns.map fun c => c.name ++ " = " ++ n.update ++ c.name
    ["UPDATE " ++ s.table ++ " SET",
      Procedure.indent ++
        Text.join (",\n" ++ Procedure.statementIndent ++ Procedure.indent) assignments,
      "WHERE " ++ s.key ++ " = " ++ n.update ++ s.key ++ ";",
      "COMMIT;"]

/-- Deletes the row with the given key. -/
def deleteProcedure (n : Naming) (s : Schema) : Procedure where
  name := "delete_" ++ s.table
  parameters := [parameter n.delete s.table s.key]
  statements :=
    ["DELETE FROM " ++ s.table ++ " WHERE " ++ s.key ++ " = " ++ n.delete ++ s.key ++ ";",
      "COMMIT;"]

/-- Returns the row with the given key. -/
def getByIdProcedure (n : Naming) (s : Schema) : Procedure where
  name := "gid_" ++ s.table ++ "_by_id"
  parameters := [parameter n.getById s.table s.key]
  locals := ["c_gid SYS_REFCURSOR;"]
  statements :=
    ["OPEN c_gid FOR SELECT * FROM " ++ s.table ++ " WHERE " ++ s.key ++ " = " ++
        n.getById ++ s.key ++ ";",
      "DBMS_SQL.RETURN_RESULT(c_gid);"]

/-- Returns all rows. -/
def getAllProcedure (s : Schema) : Procedure where
  name := "get_all_" ++ s.table
  takesArguments := false
  locals := ["c_g_all SYS_REFCURSOR;"]
  statements :=
    ["OPEN c_g_all FOR SELECT * FROM " ++ s.table ++ ";",
      "DBMS_SQL.RETURN_RESULT(c_g_all);"]

/-- The procedures of a table, in the order of the package. -/
def proceduresOf (n : Naming) (s : Schema) : List Procedure :=
  [createProcedure n s, updateProcedure n s, deleteProcedure n s, getByIdProcedure n s,
    getAllProcedure s]

/-! ## The texts of a package -/

/-- A block of members, each followed by an empty line, up to the package's `END`. -/
def block (opening name : Text) (members : List Text) : Text :=
  opening ++ "\n" ++ members.flatMap (· ++ ("\n\n" : Text)) ++ "END " ++ name ++ ";\n"

/-- The package of a table. -/
def ofSchema (n : Naming) (s : Schema) : Package :=
  let name := n.packageName s.table
  let procedures := proceduresOf n s
  { table := s.table
    name := name
    declarations :=
      block ("CREATE OR REPLACE PACKAGE " ++ name ++ " IS") name
        (procedures.map (·.declaration))
    definitions :=
      block ("CREATE OR REPLACE PACKAGE BODY " ++ name ++ " IS") name
        (procedures.map (·.definition))
    procedures := procedures }

/-- The whole text of a package. -/
def toText (p : Package) : Text := p.declarations ++ "\n\n" ++ p.definitions

end Package

end TablePackage
