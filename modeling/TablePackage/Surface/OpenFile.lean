import TablePackage.LineRange
import TablePackage.Surface

/-!
# Open files

A document in a file, of which a range of lines is selected. The file is read anew each time,
and its line endings are kept as they are.
-/

namespace TablePackage

/-- A file with a range of selected lines, among all files. -/
structure OpenFile where
  files : Files
  path : Path
  lines : LineRange := {}

namespace OpenFile

/-- Opens a file, if there is one. -/
def opening? (files : Files) (path : Path) (lines : LineRange) :
    Except FileFault (Option OpenFile) :=
  return if ← files.hasFile path then some ⟨files, path, lines⟩ else none

/-- What the log says if there is no file at a path. -/
def noFile (path : Path) : LogEntry :=
  ⟨.warning, .surface, "No such file: " ++ path.toText⟩

/-- The text of the file. -/
def text (f : OpenFile) : Except ReadFault Text :=
  match f.files.read f.path with
  | .error fault => .error (.unreadable fault)
  | .ok bytes => (Utf8.decode bytes).mapError .undecodable

/-- The selected lines. -/
def selection (f : OpenFile) : Except ReadFault Text := f.text.map f.lines.select

/-- The files with another text in this file; there has to be one already. -/
def replaceAll (f : OpenFile) (t : Text) : Except WriteFault OpenFile :=
  (f.files.replace f.path (Utf8.encode t)).map fun files => { f with files := files }

/-- What the log says about a file that cannot be written. -/
def writeFailure (f : OpenFile) (fault : WriteFault) : LogEntry :=
  ⟨.error, .surface, "Failed to write " ++ f.path.toText ++ ": " ++ fault.message⟩

/-- How a fault in writing is taken: the document stays, but a path that cannot even be looked
    up is no document. -/
def refusal (f : OpenFile) (fault : WriteFault) : Refusal :=
  if fault.cause = .unfit .nullByte then .unusable (.unreadable ⟨.nullByte, f.path⟩)
  else .unchanged [f.writeFailure fault]

end OpenFile

/-- An open file is a surface. -/
instance : Surface OpenFile where
  selection f := f.selection
  text f := f.text
  replaceAll t f := (f.replaceAll t).mapError f.refusal

end TablePackage
