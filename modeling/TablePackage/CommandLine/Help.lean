import TablePackage.CommandLine.Arguments

/-!
# Help

The texts that tell how the program is used.
-/

namespace TablePackage.CommandLine

/-- The line that tells how a command is written. -/
def Scope.usage : Scope → Text
  | program => "usage: crudgen [-h] \x7bgenerate,preview\x7d ..."
  | command .generate => "usage: crudgen generate [-h] [--lines LINES] [--config CONFIG] file"
  | command .preview =>
    "usage: crudgen preview [-h] [--lines LINES] [--config CONFIG] [--summary] file"

/-- What is told about the operands and options of a command; both commands have these. -/
def commonHelp : List Text :=
  ["positional arguments:",
    "  file             File containing the table description",
    "",
    "options:",
    "  -h, --help       show this help message and exit",
    "  --lines LINES    Selected lines as START:END, 1-based inclusive (default:",
    "                   whole file)",
    "  --config CONFIG  Path to generator configuration YAML file (default:",
    "                   $CRUDGEN_CONFIG)"]

/-- The whole help. -/
def Scope.help (s : Scope) : Text :=
  let details : List Text :=
    match s with
    | program =>
      ["Generate Oracle PL/SQL CRUD packages from table_name/table_attr declarations",
        "",
        "positional arguments:",
        "  \x7bgenerate,preview\x7d",
        "    generate          Append the generated package to the file",
        "    preview           Print the generated package without editing the file",
        "",
        "options:",
        "  -h, --help          show this help message and exit"]
    | command .generate => commonHelp
    | command .preview =>
      let summary : Text := "Also list the generated procedures and their parameters"
      commonHelp ++ ["  --summary        " ++ summary]
  Text.lines (s.usage :: [] :: details)

/-- What is told about arguments that are wrong. -/
def Scope.complaint (s : Scope) (fault : ArgumentFault) : Text :=
  Text.lines [s.usage, s.name ++ ": error: " ++ fault.message]

end TablePackage.CommandLine
