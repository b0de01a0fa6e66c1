import TablePackage.CommandLine.Help
import TablePackage.Config.Source
import TablePackage.LogFormat
import TablePackage.Routine
import TablePackage.Surface.Generate
import TablePackage.Surface.OpenFile

/-!
# The program

What the program does for its arguments, on the files and in the environment that it finds: it
prints something, perhaps it changes a file, and it ends with an exit code. The code is zero if
the program did what it was asked for, or gave help.
-/

namespace TablePackage.CommandLine

/-- What the program finds. -/
structure Setting where
  files : Files
  env : Environment := []
  /-- How the log writes the time. -/
  time : Text := []
  /-- Whether the user interrupts the program before it has read its configuration. -/
  interrupted : Bool := false

/-- What the program has done. -/
structure Report where
  exit : Nat
  out : Text
  err : Text
  files : Files

namespace Report

/-- The program has changed no file. -/
def failed (files : Files) (exit : Nat) (err : Text) : Report := ⟨exit, [], err, files⟩

/-- The line that tells about a fault. -/
def errorLine (message : Text) : Text := "Error: " ++ message ++ "\n"

end Report

open Report

/-- What a generation prints about its package. -/
def announcement (g : Generated) : Text :=
  let key : Text := if g.schema.key = [] then "(none)" else g.schema.key
  Text.lines
    ["  Package: " ++ g.package.name,
      "  Columns: " ++ Text.join ", " g.schema.columnNames,
      "  Primary key: " ++ key]

/-- What is printed about a run: its log and its notices, and about its package if there is
    one. -/
def reportRun {σ : Type} (log : List LogEntry → Text) (files : Files) (run : Run σ) : Report :=
  let notes := run.notifier.notes?.getD {}
  let err := log run.log ++ notes.errors.flatMap errorLine
  let told : Text := Text.lines (notes.infos.map (("✓ " : Text) ++ ·))
  match run.outcome with
  | .error _ => ⟨1, told, err, files⟩
  | .ok g => ⟨0, told ++ announcement g, err, files⟩

/-- Puts the package into the file. -/
def generate (c : Config) (log : List LogEntry → Text) (files : Files) (r : Request) : Report :=
  let path : Path := .ofText r.file
  match OpenFile.opening? files path r.lines with
  | .error fault => failed files 1 (errorLine fault.message)
  | .ok none =>
    let run := Run.nowhere (.recording {}) ()
    reportRun log files { run with log := OpenFile.noFile path :: run.log }
  | .ok (some file) =>
    match Run.generate c (.recording {}) file with
    | .error fault => failed files 1 (errorLine fault.message)
    | .ok run => reportRun log run.surface.files run

/-- What is printed about the procedures of a package. -/
def summary (definitions : Text) : Text :=
  let routines := Routine.ofBody definitions
  "\nProcedures (" ++ Text.ofNat routines.length ++ "):\n" ++
    Text.lines (routines.map (("  " : Text) ++ ·.summary))

/-- Prints the package. -/
def preview (c : Config) (log : List LogEntry → Text) (files : Files) (r : Request) : Report :=
  let path : Path := .ofText r.file
  match OpenFile.opening? files path r.lines with
  | .error fault => failed files 1 (errorLine fault.message)
  | .ok none =>
    failed files 1 (log [OpenFile.noFile path] ++ errorLine Fault.noActiveEditor.message)
  | .ok (some file) =>
    match file.selection with
    | .error fault => failed files 1 (errorLine fault.message)
    | .ok selection =>
      let err := log (Generated.buildLog selection)
      match Generated.build selection c.naming c.validation.requireKey with
      | .error fault => failed files 1 (err ++ errorLine fault.message)
      | .ok g =>
        let p := g.package
        let more : Text := if r.summary then summary p.definitions else []
        ⟨0, p.declarations ++ "\n" ++ p.definitions ++ more, err, files⟩

/-- Does what is asked for. -/
def answer (s : Setting) (r : Request) : Report :=
  if s.interrupted then failed s.files 130 "\nInterrupted by user\n"
  else
    match Config.load s.files s.env r.config with
    | .error fault => failed s.files 1 (errorLine fault.message)
    | .ok c =>
      let format := c.logging.format
      if !LogFormat.isUsable format then
        failed s.files 1 (errorLine (LogFormat.complaint format))
      else
        let log := LogFormat.written format s.time c.logging.level
        match r.command with
        | .generate => generate c log s.files r
        | .preview => preview c log s.files r

/-- Does what the arguments ask for. -/
def run (s : Setting) (arguments : List Text) : Report :=
  match Request.ofArguments arguments with
  | .ok r => answer s r
  | .error (.help scope) => ⟨0, scope.help, [], s.files⟩
  | .error (.refused scope fault) => failed s.files 2 (scope.complaint fault)

/-- The paths at which the program may look for a file, for these arguments. -/
def consulted (env : Environment) (arguments : List Text) : List Path :=
  match Request.ofArguments arguments with
  | .error _ => []
  | .ok r =>
    let named := [r.config, env.lookup Config.defaultVariable].filterMap id
    Config.defaultPath :: (r.file :: named).map .ofText

end TablePackage.CommandLine
