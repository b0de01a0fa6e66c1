import TablePackage.Text

/-!
# Procedures

A stored procedure and its two written forms: the declaration in the specification of its
package, and the definition in the body.
-/

namespace TablePackage

/-- A stored procedure. Its parameters, statements and local declarations are given as they
    are written; a procedure that takes no arguments is written without parentheses. -/
structure Procedure where
  name : Text
  parameters : List Text := []
  statements : List Text := []
  locals : List Text := []
  takesArguments : Bool := true
  deriving DecidableEq

namespace Procedure

/-- The indentation of a member of a package. -/
def indent : Text := "  "

/-- The indentation of a statement in a procedure, and of a parameter. -/
def statementIndent : Text := "    "

/-- The parameters, one a line. -/
def parameterBlock (p : Procedure) : Text :=
  match Text.join ",\n" p.parameters with
  | [] => []
  | c :: block => c :: block ++ ['\n']

/-- The name of a procedure with its parameters. -/
def signature (p : Procedure) : Text :=
  let header : Text := indent ++ "PROCEDURE " ++ p.name
  if p.takesArguments then header ++ "(\n" ++ p.parameterBlock ++ indent ++ ")" else header

/-- The form of a procedure in a specification. -/
def declaration (p : Procedure) : Text := p.signature ++ ";"

/-- The form of a procedure in a body. -/
def definition (p : Procedure) : Text :=
  Text.join "\n" <|
    [p.signature ++ " IS"] ++ p.locals.map (statementIndent ++ ·) ++ [indent ++ "BEGIN"] ++
      p.statements.map (statementIndent ++ ·) ++ [indent ++ "END " ++ p.name ++ ";"]

end Procedure

end TablePackage
