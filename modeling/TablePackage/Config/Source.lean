import TablePackage.Config
import TablePackage.Files
import TablePackage.Yaml.Document

/-!
# Where configurations come from

A configuration is read from a YAML file. The file is the one that is asked for; if none is,
the one that an environment variable names; if it names none, `config/crudgen.yaml`; and if
that is missing, the configuration is the default one.
-/

namespace TablePackage

/-- The environment variables. -/
abbrev Environment := List (Text × Text)

/-- Why there is no configuration. -/
inductive SourceFault
  /-- Nothing stands at the path. -/
  | missing (path : Path)
  | unreadable (fault : FileFault)
  | unparsable (fault : Yaml.Fault)
  /-- The file has a value that is no configuration. -/
  | invalid (path : Path) (faults : List FieldFault)
  /-- There is a part of an identifier with surrogates. Nothing else is told then. -/
  | unencodable (path : Path) (s : CodePoints)

namespace Config

/-! ## Reports -/

/-- One fault in a report: where it is, what it is, and the value it is about. -/
def reportOf (f : FieldFault) : Text :=
  (if f.location = [] then [] else Text.join "." f.location ++ "\n" : Text) ++
    "  " ++ f.cause.message ++ " [type=" ++ f.cause.name ++ ", input_value=" ++
    f.input.displayShort ++ ", input_type=" ++ f.input.kindName ++ "]\n" ++
    "    For further information visit https://errors.pydantic.dev/2.14/v/" ++ f.cause.name

/-- The report on all faults of a value. -/
def report (faults : List FieldFault) : Text :=
  Text.ofNat faults.length ++
    (if faults.length = 1 then " validation error" else " validation errors" : Text) ++
    " for GeneratorConfig\n" ++ Text.join "\n" (faults.map reportOf)

end Config

/-- The message of a fault. -/
def SourceFault.message : SourceFault → Text
  | .missing path => "Config file not found: " ++ path.toText
  | .unreadable fault => fault.message
  | .unparsable fault => fault.message
  | .invalid path faults =>
    "Invalid configuration in " ++ path.toText ++ ": " ++ Config.report faults
  | .unencodable path s =>
    "Invalid configuration in " ++ path.toText ++ ": " ++ encodingComplaint s

namespace Config

/-! ## Reading -/

/-- The configuration in a file. An empty file, or one with the null value, has the default
    one. -/
def ofFile (files : Files) (path : Path) : Except SourceFault Config := do
  if !(← (files.has path).mapError .unreadable) then throw (.missing path)
  let bytes ← (files.read path).mapError .unreadable
  match ← (Yaml.readBytes bytes).mapError .unparsable with
  | .null => return {}
  | v =>
    match check v with
    | .ok c => return c
    | .error faults =>
      match faults.findSome? (·.cause.unencodable?) with
      | some s => throw (.unencodable path s)
      | none => throw (.invalid path faults)

/-- The path of the file that is used if no other one is named. -/
def defaultPath : Path := .ofText "config/crudgen.yaml"

/-- The variable that names a configuration file. -/
def defaultVariable : Text := "CRUDGEN_CONFIG"

/-- The configuration in the file that a variable names, or in the default file. -/
def ofVariable (files : Files) (env : Environment) (name : Text) :
    Except SourceFault Config :=
  match env.lookup name with
  | none | some [] => do
    if ← (files.has defaultPath).mapError .unreadable then ofFile files defaultPath
    else return {}
  | some path => ofFile files (.ofText path)

/-- The configuration in the file that is asked for, if any, or else as the environment
    says. -/
def load (files : Files) (env : Environment) : Option Text → Except SourceFault Config
  | none | some [] => ofVariable files env defaultVariable
  | some path => ofFile files (.ofText path)

end Config

end TablePackage
