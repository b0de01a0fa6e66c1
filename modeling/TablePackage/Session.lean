import TablePackage.Surface.Buffer
import TablePackage.Surface.Generate
import TablePackage.Surface.OpenFile

/-!
# Sessions

A session is a surface with a notifier and a configuration, on which steps are taken one after
the other. Each step has an answer, and tells the log something.

* `Session.replies`: the answers to a list of steps, each with the session after it.
-/

namespace TablePackage

/-- A surface that is worked on. -/
structure Session (σ : Type) where
  surface : σ
  notifier : Notifier
  config : Config

/-- What a step on any surface is. -/
inductive Step
  /-- Reads the selected text. -/
  | selection
  /-- Reads the whole document. -/
  | text
  /-- Replaces the document. -/
  | replace (t : Text)
  /-- Runs the command, with a configuration of its own if one is given, and without the
      surface if it is not `present`. -/
  | generate (config : Option Value) (present : Bool)
  /-- Tells the user something. -/
  | notify (notice : Notice)
  /-- Reads the notes of the notifier. -/
  | notes

/-- The answer to a step. -/
inductive Answer
  | nothing
  | text (t : Text)
  | flag (b : Bool)
  | generated (g : Generated)
  | notes (notes : Option Notes)
  | unreadable (fault : ReadFault)
  | invalid (faults : List FieldFault)

/-- The answer to a step, the session after it, and what it tells the log. -/
structure Reply (σ : Type) where
  answer : Answer
  session : Session σ
  log : List LogEntry := []

namespace Session

/-- The configuration of a run: the session's own, unless one is given; null stands for the
    default one. -/
def configFor {σ : Type} (s : Session σ) : Option Value → Checked Config
  | none => .ok s.config
  | some .null => .ok {}
  | some v => Config.check v

/-- The reply to a step that only reads. -/
def look {σ : Type} (s : Session σ) (read : Except ReadFault Text) : Reply σ :=
  match read with
  | .ok t => ⟨.text t, s, []⟩
  | .error fault => ⟨.unreadable fault, s, []⟩

/-- The reply to a run of the command. -/
def afterRun {σ : Type} (s : Session σ) (run : Run σ) : Reply σ :=
  let answer : Answer :=
    match run.outcome with
    | .ok g => .generated g
    | .error _ => .nothing
  ⟨answer, { s with surface := run.surface, notifier := run.notifier }, run.log⟩

/-- Runs the command. -/
def generate {σ : Type} [Surface σ] (s : Session σ) (c : Config) (present : Bool) : Reply σ :=
  if !present then s.afterRun (Run.nowhere s.notifier s.surface)
  else
    match Run.generate c s.notifier s.surface with
    | .ok run => s.afterRun run
    | .error fault => ⟨.unreadable fault, s, []⟩

/-- Takes a step. -/
def step {σ : Type} [Surface σ] (s : Session σ) : Step → Reply σ
  | .selection => s.look (Surface.selection s.surface)
  | .text => s.look (Surface.text s.surface)
  | .replace t =>
    match Surface.replaceAll t s.surface with
    | .ok surface => ⟨.flag true, { s with surface := surface }, []⟩
    | .error (.unchanged refusal) => ⟨.flag false, s, refusal⟩
    | .error (.unusable fault) => ⟨.unreadable fault, s, []⟩
  | .generate config present =>
    match s.configFor config with
    | .ok c => s.generate c present
    | .error faults => ⟨.invalid faults, s, []⟩
  | .notify notice =>
    let (notifier, log) := s.notifier.tell notice
    ⟨.nothing, { s with notifier := notifier }, log⟩
  | .notes => ⟨.notes s.notifier.notes?, s, []⟩

/-- The replies to steps that are taken one after the other. -/
def replies {σ ι : Type} (take : Session σ → ι → Reply σ) (s : Session σ) : List ι → List (Reply σ)
  | [] => []
  | i :: steps =>
    let reply := take s i
    reply :: replies take reply.session steps

end Session

/-! ## Buffers -/

/-- A step on a buffer. -/
inductive Buffer.Step
  | on (step : TablePackage.Step)
  /-- Moves the selection. -/
  | select (start stop : Option Int)

/-- Takes a step on a buffer. -/
def Buffer.take (s : Session Buffer) : Buffer.Step → Reply Buffer
  | .on step => s.step step
  | .select start stop => ⟨.nothing, { s with surface := s.surface.select start stop }, []⟩

/-! ## Open files -/

/-- A step on an open file. -/
inductive OpenFile.Step
  | on (step : TablePackage.Step)
  /-- Goes on to another file, if there is one. -/
  | opening (path : Path) (lines : LineRange)
  /-- Puts something at a path, whatever was there. -/
  | write (path : Path) (node : Node)
  /-- Takes a file away. -/
  | remove (path : Path)

/-- Takes a step on an open file. -/
def OpenFile.take (s : Session OpenFile) : OpenFile.Step → Reply OpenFile
  | .on step => s.step step
  | .opening path lines =>
    match OpenFile.opening? s.surface.files path lines with
    | .ok (some file) => ⟨.flag true, { s with surface := file }, []⟩
    | .ok none => ⟨.flag false, s, [OpenFile.noFile path]⟩
    | .error fault => ⟨.unreadable (.unreadable fault), s, []⟩
  | .write path node =>
    let file := { s.surface with files := s.surface.files.create path node }
    ⟨.nothing, { s with surface := file }, []⟩
  | .remove path =>
    match s.surface.files.remove path with
    | .ok files => ⟨.nothing, { s with surface := { s.surface with files := files } }, []⟩
    | .error fault => ⟨.unreadable (.unreadable fault), s, []⟩

end TablePackage
