import TablePackage.LineRange
import TablePackage.Text.Quoted

/-!
# Commands and options

The words of the command line: the commands of the program, their options, and what is wrong
with arguments that make no request.
-/

namespace TablePackage.CommandLine

/-- The version of the program. -/
def version : Text := "0.1.0"

/-- What the program is asked to do with a file. -/
inductive Command
  | generate
  | preview
  deriving DecidableEq

/-- The commands of the program. -/
def Command.all : List Command := [.generate, .preview]

/-- The name of a command. -/
def Command.name : Command → Text
  | .generate => "generate"
  | .preview => "preview"

/-- The command with a name. -/
def Command.named? (name : Text) : Option Command := all.find? (·.name = name)

/-- An option. -/
inductive Switch
  | help
  | lines
  | config
  | summary
  deriving DecidableEq

/-- The ways to write an option. -/
def Switch.spellings : Switch → List Text
  | .help => ["-h", "--help"]
  | .lines => ["--lines"]
  | .config => ["--config"]
  | .summary => ["--summary"]

/-- The name of an option in messages. -/
def Switch.title (s : Switch) : Text := Text.join "/" s.spellings

/-- Whether an option has a value. -/
def Switch.takesValue : Switch → Bool
  | .lines | .config => true
  | .help | .summary => false

/-- Where an argument stands: before the name of a command, or behind it. -/
inductive Scope
  | program
  | command (c : Command)
  deriving DecidableEq

namespace Scope

/-- The name of the program, with that of the command. -/
def name : Scope → Text
  | program => "crudgen"
  | command c => "crudgen " ++ c.name

/-- The options that are known. -/
def switches : Scope → List Switch
  | program => [.help]
  | command .generate => [.help, .lines, .config]
  | command .preview => [.help, .lines, .config, .summary]

/-- The options that are known, each with all its spellings. -/
def spellings (s : Scope) : List (Switch × Text) :=
  s.switches.flatMap fun switch => switch.spellings.map (switch, ·)

end Scope

/-- What is wrong with arguments. -/
inductive ArgumentFault
  /-- A value is attached to an option that has none. -/
  | ignoredValue (switch : Switch) (value : Text)
  | missingValue (switch : Switch)
  | badLines (fault : LineRange.Fault)
  /-- An argument may stand for several options. -/
  | ambiguous (argument : Text) (spellings : List Text)
  | unknownCommand (name : Text)
  | missingCommand
  | missingFile
  | unrecognized (arguments : List Text)
  deriving DecidableEq

/-- The wording of a fault. -/
def ArgumentFault.message : ArgumentFault → Text
  | ignoredValue switch value =>
    "argument " ++ switch.title ++ ": ignored explicit argument " ++ Quoted.ofText value
  | missingValue switch => "argument " ++ switch.title ++ ": expected one argument"
  | badLines fault => "argument " ++ Switch.lines.title ++ ": " ++ fault.message
  | ambiguous argument spellings =>
    "ambiguous option: " ++ argument ++ " could match " ++ Text.join ", " spellings
  | unknownCommand name =>
    "argument cmd: invalid choice: " ++ Quoted.ofText name ++ " (choose from " ++
      Text.join ", " (Command.all.map (Quoted.ofText ·.name)) ++ ")"
  | missingCommand => "the following arguments are required: cmd"
  | missingFile => "the following arguments are required: file"
  | unrecognized arguments => "unrecognized arguments: " ++ Text.join " " arguments

end TablePackage.CommandLine
