import TablePackage.Log

/-!
# Notices

What the user is told. A notifier either keeps the notices, or hands them on to the log.
-/

namespace TablePackage

/-- A message to the user. -/
inductive Notice
  | error (message : Text)
  | info (message : Text)
  deriving DecidableEq

/-- The entry of the log that stands for a notice. -/
def Notice.entry : Notice → LogEntry
  | .error message => ⟨.error, .surface, message⟩
  | .info message => ⟨.info, .surface, message⟩

/-- The notices that were kept, in the order in which they came. -/
structure Notes where
  errors : List Text := []
  infos : List Text := []
  deriving DecidableEq

/-- Whether there was an error. -/
def Notes.failed (n : Notes) : Bool := n.errors ≠ []

/-- The notes with one more notice. -/
def Notes.add (n : Notes) : Notice → Notes
  | .error message => { n with errors := n.errors ++ [message] }
  | .info message => { n with infos := n.infos ++ [message] }

/-- Where notices go. -/
inductive Notifier
  | recording (notes : Notes)
  | logging
  deriving DecidableEq

namespace Notifier

/-- Shows a notice: the notifier afterwards, and what comes to the log. -/
def tell (notice : Notice) : Notifier → Notifier × List LogEntry
  | recording notes => (recording (notes.add notice), [])
  | logging => (logging, [notice.entry])

/-- The notes of a notifier that keeps them. -/
def notes? : Notifier → Option Notes
  | recording notes => some notes
  | logging => none

end Notifier

end TablePackage
