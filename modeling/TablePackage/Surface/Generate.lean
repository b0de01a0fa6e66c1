import TablePackage.Config
import TablePackage.Generation
import TablePackage.Notice
import TablePackage.Surface

/-!
# Generating on a surface

The command of the program: it makes the package of the selected table, puts it into the
document after the selection, and tells the user how it went. The document is replaced as a
whole or not at all, and there is one notice for each run: an info if the document was replaced,
an error if not. A surface that cannot be read ends the run without a notice.
-/

namespace TablePackage

/-- How a run ends: with a package, or with what keeps it from being made. -/
abbrev Outcome := Except Fault Generated

namespace Outcome

/-- What the user is told. -/
def notice : Outcome → Notice
  | .ok g =>
    .info ("CRUD operations for " ++ g.schema.table ++ " generated and updated successfully.")
  | .error fault => .error fault.message

/-- What the log is told. -/
def entry : Outcome → LogEntry
  | .ok g =>
    ⟨.info, .command, "Generated " ++ Text.ofNat g.package.procedures.length ++
      " procedures in " ++ g.package.name⟩
  | .error fault => ⟨.warning, .command, "CRUD generation aborted: " ++ fault.message⟩

end Outcome

/-- A run of the command: how it ended, the surface and the notifier afterwards, and the
    log. -/
structure Run (σ : Type) where
  outcome : Outcome
  surface : σ
  notifier : Notifier
  log : List LogEntry

namespace Run

/-- Ends a run: the log and the user are told about the outcome. -/
def close {σ : Type} (n : Notifier) (outcome : Outcome) (s : σ) (log : List LogEntry) : Run σ :=
  let (n, told) := n.tell outcome.notice
  ⟨outcome, s, n, log ++ [outcome.entry] ++ told⟩

/-- The run without a surface to work on; `s` stands for whatever there is instead. -/
def nowhere {σ : Type} (n : Notifier) (s : σ) : Run σ := close n (.error .noActiveEditor) s []

/-- The run on a surface. -/
def generate {σ : Type} [Surface σ] (c : Config) (n : Notifier) (s : σ) :
    Except ReadFault (Run σ) := do
  let selection ← Surface.selection s
  let log := Generated.buildLog selection
  match Generated.build selection c.naming c.validation.requireKey with
  | .error fault => return close n (.error fault) s log
  | .ok g =>
    let document ← Surface.text s
    match Surface.replaceAll (g.expandIn document) s with
    | .error (.unchanged refusal) => return close n (.error .documentUpdate) s (log ++ refusal)
    | .error (.unusable fault) => throw fault
    | .ok s => return close n (.ok g) s log

end Run

end TablePackage
