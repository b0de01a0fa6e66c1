import TablePackage.Files
import TablePackage.Log

/-!
# Surfaces

A surface is what the generation works on: a document of which a part is selected, and which
can only be replaced as a whole. There are two kinds, a buffer in memory (`Surface.Buffer`) and
a file (`Surface.OpenFile`).
-/

namespace TablePackage

/-- Why the text of a surface cannot be read. -/
inductive ReadFault
  | unreadable (fault : FileFault)
  | undecodable (fault : Utf8.Fault)
  deriving DecidableEq

/-- The message of a fault. -/
def ReadFault.message : ReadFault → Text
  | .unreadable fault => fault.message
  | .undecodable fault => fault.message

/-- Why a document is not replaced. -/
inductive Refusal
  /-- The document stays as it is, and this is what the log says about that. -/
  | unchanged (log : List LogEntry)
  /-- There can be no such document. -/
  | unusable (fault : ReadFault)

/-- A document with a selection. -/
class Surface (σ : Type) where
  /-- The selected text. -/
  selection : σ → Except ReadFault Text
  /-- The text of the whole document. -/
  text : σ → Except ReadFault Text
  /-- The surface with another document, if the document can be replaced. -/
  replaceAll : Text → σ → Except Refusal σ

end TablePackage
