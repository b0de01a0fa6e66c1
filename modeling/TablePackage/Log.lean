import TablePackage.Text

/-!
# Log entries

What the parts of the program tell about their work, each entry with its level and with the
part it comes from.
-/

namespace TablePackage

/-- How much an entry matters. -/
inductive Level
  | debug
  | info
  | warning
  | error
  deriving DecidableEq

/-- The levels in ascending order. -/
def Level.rank : Level → Nat
  | .debug => 0
  | .info => 1
  | .warning => 2
  | .error => 3

/-- The name of a level. -/
def Level.name : Level → Text
  | .debug => "DEBUG"
  | .info => "INFO"
  | .warning => "WARNING"
  | .error => "ERROR"

/-- The part of the program that an entry comes from. -/
inductive Origin
  | extraction
  | command
  | surface
  deriving DecidableEq

/-- The name that a log shows for a part of the program. -/
def Origin.name : Origin → Text
  | .extraction => "crud_generator.sql_schema.extractor"
  | .command => "crud_generator.editor.command"
  | .surface => "crud_generator.editor.surface"

/-- An entry of the log. -/
structure LogEntry where
  level : Level
  origin : Origin
  message : Text
  deriving DecidableEq

end TablePackage
