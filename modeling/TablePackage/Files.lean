import TablePackage.Text.Utf8

/-!
# Files

The files that a command sees, by their place relative to the working directory. A path is
looked up step by step: each step starts from a directory that exists, so a path through a
missing directory, or through a file, leads nowhere. A path may not have a null character, and
neither its steps nor the whole path may be too long.

A file is written over in stages (`Writing`): a draft beside it gets the new bytes, and then takes
its place. The system may refuse to take a stage, for reasons that the files do not show; what it
answers is given with them (`Files.refusal?`).
-/

namespace TablePackage

/-! ## Paths -/

/-- A path without its empty and `.` steps: the slashes it starts with, and its steps. -/
structure Path where
  root : Text
  steps : List Text
  deriving DecidableEq

/-- The path that a text denotes. Two slashes at the start are kept, any other number of them
    is one. -/
def Path.ofText (t : Text) : Path :=
  let root : Text :=
    match (t.takeWhile (· = '/')).length with
    | 0 => ""
    | 2 => "//"
    | _ => "/"
  ⟨root, (t.splitOn '/').filter fun step => step ≠ [] ∧ step ≠ ['.']⟩

/-- The normal form of a path; the path without steps is `.`. -/
def Path.toText (p : Path) : Text :=
  if p.root = [] ∧ p.steps = [] then "." else p.root ++ Text.join "/" p.steps

/-! ## What there is -/

/-- What stands at a place. -/
inductive Node
  | file (bytes : Bytes)
  | directory
  deriving DecidableEq

/-- A place: the steps that lead to it from the working directory, or from the root `/`. -/
abbrev Place := List Text

/-- Whether a place is the working directory, the root, or a directory above. -/
def Place.isTop (l : Place) : Bool := l.all (· = ['.', '.']) || l = [['/']]

/-- The directory that holds a place. -/
def Place.parent (l : Place) : Place :=
  if l = [['/']] then l else if l.all (· = ['.', '.']) then l ++ [['.', '.']] else l.dropLast

/-- The place one step away: `..` leads to the directory that holds a place. -/
def Place.next (l : Place) (s : Text) : Place := if s = ['.', '.'] then l.parent else l ++ [s]

/-- The place where a path starts. -/
def Path.start (p : Path) : Place := if p.root = [] then [] else [['/']]

/-- What is done to write over a file. -/
inductive Writing.Stage
  /-- Makes an empty draft beside the file. -/
  | create
  /-- Remembers the draft, so that it can be taken away. -/
  | remember
  /-- Puts the new bytes into the draft. -/
  | fill
  /-- Makes the draft as accessible as the file. -/
  | copyMode
  /-- Puts the draft in the place of the file. -/
  | swap
  deriving DecidableEq

/-- The files and directories below the working directory, and what the system lets be done. -/
structure Files where
  entries : List (Place × Node) := []
  /-- The words with which the system refuses to take a stage of writing over the file at a path.
      This depends on more than the files: on who asks, on the space that is left, and on where the
      working directory is, as the draft is made at an absolute path. It is taken not to depend on
      what is written, nor on what was written before. -/
  refusal? : Path → Writing.Stage → Option Text := fun _ _ => none

/-- Why there is no file at a path. -/
inductive FileCause
  | missing
  | isDirectory
  | notDirectory
  | nameTooLong
  /-- The path has a null character. -/
  | nullByte
  deriving DecidableEq

/-- A path that is no readable file. -/
structure FileFault where
  cause : FileCause
  path : Path
  deriving DecidableEq

/-- The number and the wording of a cause. -/
def FileCause.message : FileCause → Text
  | .missing => "[Errno 2] No such file or directory"
  | .isDirectory => "[Errno 21] Is a directory"
  | .notDirectory => "[Errno 20] Not a directory"
  | .nameTooLong => "[Errno 36] File name too long"
  | .nullByte => "embedded null byte"

/-- A fault's message tells the path, unless the path cannot even be looked up. -/
def FileFault.message (f : FileFault) : Text :=
  if f.cause = .nullByte then f.cause.message
  else f.cause.message ++ ": " ++ Quoted.ofText f.path.toText

/-- Why a file is not written over. -/
inductive WriteCause
  /-- There is no file at its path, or none beside which a draft can be named. -/
  | unfit (cause : FileCause)
  /-- The system refuses a stage with these words. -/
  | refused (words : Text)
  deriving DecidableEq

/-- A path whose file is not written over. -/
structure WriteFault where
  cause : WriteCause
  path : Path
  deriving DecidableEq

/-- The wording of a cause. -/
def WriteCause.message : WriteCause → Text
  | .unfit cause => cause.message
  | .refused words => words

/-- A fault's message tells the path. -/
def WriteFault.message (f : WriteFault) : Text :=
  f.cause.message ++ ": " ++ Quoted.ofText f.path.toText

namespace Files

/-- What stands at a place. -/
def node? (files : Files) (l : Place) : Option Node :=
  if l.isTop then some .directory else (files.entries.find? (·.1 = l)).map (·.2)

/-- How many bytes a step of a path may have. -/
def stepLimit : Nat := 255

/-- How many bytes a path may have. -/
def pathLimit : Nat := 4095

/-- The place one step away, if that can be told. -/
def step (files : Files) (l : Place) (s : Text) : Except FileCause Place :=
  match files.node? l with
  | none => .error .missing
  | some (.file _) => .error .notDirectory
  | some .directory =>
    if stepLimit < (Utf8.encode s).length then .error .nameTooLong else .ok (l.next s)

/-- The place that a path leads to, whether something stands there or not. -/
def resolve (files : Files) (p : Path) : Except FileCause Place :=
  if '\x00' ∈ p.toText then .error .nullByte
  else if pathLimit < (Utf8.encode p.toText).length then .error .nameTooLong
  else p.steps.foldlM files.step p.start

/-- What stands at the end of a path. -/
def lookup (files : Files) (p : Path) : Except FileCause Node := do
  match files.node? (← files.resolve p) with
  | some node => pure node
  | none => throw .missing

/-- What stands at the end of a path, if anything does. A path that is too long has no
    answer. -/
def find? (files : Files) (p : Path) : Except FileFault (Option Node) :=
  match files.lookup p with
  | .ok node => .ok (some node)
  | .error .nameTooLong => .error ⟨.nameTooLong, p⟩
  | .error _ => .ok none

/-- Whether something stands at the end of a path. -/
def has (files : Files) (p : Path) : Except FileFault Bool := return (← files.find? p).isSome

/-- Whether a file stands at the end of a path. -/
def hasFile (files : Files) (p : Path) : Except FileFault Bool := do
  match ← files.find? p with
  | some (.file _) => return true
  | _ => return false

/-- The bytes of the file at the end of a path. -/
def read (files : Files) (p : Path) : Except FileFault Bytes :=
  match files.lookup p with
  | .ok (.file bytes) => .ok bytes
  | .ok .directory => .error ⟨.isDirectory, p⟩
  | .error cause => .error ⟨cause, p⟩

/-- The same files, with `node` at the place `l`. -/
def put (files : Files) (l : Place) (node : Node) : Files :=
  if files.entries.any (·.1 = l) then
    { files with entries := files.entries.map fun e => if e.1 = l then (l, node) else e }
  else { files with entries := files.entries ++ [(l, node)] }

/-- By how many bytes the name of a draft is longer than that of its file. -/
def draftExcess : Nat := 14

/-- Whether the name of a file leaves room for that of a draft. -/
def namesDraft (p : Path) : Bool :=
  (Utf8.encode (p.steps.getLastD [])).length + draftExcess ≤ stepLimit

/-- Asks the system to take a stage of writing over the file at a path. -/
def ask (files : Files) (p : Path) (stage : Writing.Stage) : Except WriteCause Unit :=
  match files.refusal? p stage with
  | some words => .error (.refused words)
  | none => .ok ()

/-- Whether a draft of the file at a path can be named, and the system refuses no stage in which
    it is made and put in the place of the file. -/
def takesDraft (files : Files) (p : Path) : Bool :=
  namesDraft p &&
    [.create, .fill, .copyMode, .swap].all fun stage => (files.refusal? p stage).isNone

end Files

/-! ## Writing over a file -/

/-- Files while one of them is written over. Its new bytes are put into a draft beside it first,
    under a name that no other file has. -/
structure Writing where
  files : Files
  draft : Option Bytes := none
  /-- Whether the draft is known, so that it can be taken away. -/
  remembered : Bool := false

namespace Writing

/-- The stages in which a file gets new bytes. -/
def stages : List Stage := [.create, .remember, .fill, .copyMode, .swap]

/-- Takes a stage of writing bytes over the file at the end of a path, if that is possible. -/
def take (p : Path) (bytes : Bytes) (w : Writing) : Stage → Except WriteCause Writing
  | .create => do
    let _ ← (w.files.resolve p).mapError .unfit
    if Files.namesDraft p then
      w.files.ask p .create
      return { w with draft := some [] }
    else throw (.unfit .nameTooLong)
  | .remember => return { w with remembered := true }
  | .fill => do
    w.files.ask p .fill
    return { w with draft := w.draft.map fun _ => bytes }
  | .copyMode => do
    let _ ← (w.files.lookup p).mapError .unfit
    w.files.ask p .copyMode
    return w
  | .swap => do
    let l ← (w.files.resolve p).mapError .unfit
    match w.files.node? l, w.draft with
    | some .directory, _ => throw (.unfit .isDirectory)
    | _, none => throw (.unfit .missing)
    | _, some bytes =>
      w.files.ask p .swap
      return { w with files := w.files.put l (.file bytes), draft := none }

/-- Takes stages one after the other, up to one that fails. -/
def run (p : Path) (bytes : Bytes) (w : Writing) : List Stage → Option WriteCause × Writing
  | [] => (none, w)
  | stage :: stages =>
    match w.take p bytes stage with
    | .ok w => w.run p bytes stages
    | .error cause => (some cause, w)

/-- Takes the draft away, if it is known. -/
def clean (w : Writing) : Writing := if w.remembered then { w with draft := none } else w

end Writing

namespace Files

/-- Writes over the file at the end of a path. Whichever stage fails, a draft that is known is
    taken away. -/
def writeOver (files : Files) (p : Path) (bytes : Bytes) : Option WriteCause × Writing :=
  let (cause, w) := Writing.run p bytes { files := files } Writing.stages
  (cause, w.clean)

/-- The files after the file at the end of a path is written over, if that is possible. -/
def replace (files : Files) (p : Path) (bytes : Bytes) : Except WriteFault Files :=
  match files.writeOver p bytes with
  | (none, w) => .ok w.files
  | (some cause, _) => .error ⟨cause, p⟩

/-- Puts `node` at the end of the steps from `l`, with the directories that lead to it. -/
def createFrom (files : Files) (l : Place) (node : Node) : List Text → Files
  | [] => files
  | [s] => files.put (l.next s) node
  | s :: t :: steps =>
    -- A directory that is missing on the way is made.
    let files := if (files.node? (l.next s)).isSome then files else files.put (l.next s) .directory
    createFrom files (l.next s) node (t :: steps)

/-- Puts `node` at the end of a path, with the directories that lead to it. -/
def create (files : Files) (p : Path) (node : Node) : Files :=
  files.createFrom p.start node p.steps

/-- Takes away what stands at the end of a path. -/
def remove (files : Files) (p : Path) : Except FileFault Files :=
  match files.resolve p with
  | .error cause => .error ⟨cause, p⟩
  | .ok l =>
    match files.node? l with
    | some (.file _) => .ok { files with entries := files.entries.filter (·.1 ≠ l) }
    | some .directory => .error ⟨.isDirectory, p⟩
    | none => .error ⟨.missing, p⟩

end Files

end TablePackage
