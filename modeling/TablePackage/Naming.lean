import TablePackage.Text

/-!
# Naming

How the generated identifiers are made from the names of tables and columns.
-/

namespace TablePackage

/-- What is put before column names to name the parameters of each procedure, and after the
    table's name to name the package. -/
structure Naming where
  create : Text := "c_"
  update : Text := "u_"
  delete : Text := "d_"
  getById : Text := "gid_"
  packageSuffix : Text := "_package"
  deriving DecidableEq

/-- The name of the package of a table. -/
def Naming.packageName (n : Naming) (table : Text) : Text := table ++ n.packageSuffix

end TablePackage
