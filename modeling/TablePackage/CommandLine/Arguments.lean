import TablePackage.CommandLine.Options
import TablePackage.Unicode.Digit

/-!
# Arguments

From the arguments of the command line to the request that they make. An argument that starts
with a dash is an option, unless it is a negative number or has a blank; of a long option any
start that only one option has will do, and a value may be attached with an equals sign. Behind
`--` there are no options.

* `classify`: what an argument is. That is told for all arguments first.
* `Request.ofArguments`: the request, or else whether help is asked for, or what is wrong.
-/

namespace TablePackage.CommandLine

/-! ## What an argument is -/

/-- What is attached to an option in the same argument. -/
inductive Attached
  | nothing
  /-- What stands behind an equals sign. -/
  | value (t : Text)
  /-- What stands right behind a short option. -/
  | tail (t : Text)
  deriving DecidableEq

/-- What an argument is. -/
inductive Word
  | operand
  /-- The mark `--`. -/
  | terminator
  | option (switch : Switch) (isShort : Bool) (attached : Attached)
  /-- It looks like an option, but like none that is known. -/
  | unknown
  deriving DecidableEq

/-- The name of a long option, and what is attached to it. -/
def splitValue (argument : Text) : Text × Attached :=
  match Text.cut? ['='] argument with
  | some (name, value) => (name, .value value)
  | none => (argument, .nothing)

/-- What is attached to a short option. -/
def attachedTail : Text → Attached
  | [] => .nothing
  | '=' :: t => .value t
  | t => .tail t

/-- The options that an argument may stand for, each with its spelling and what is attached. -/
def candidates (s : Scope) : Text → List (Switch × Text × Attached)
  | '-' :: '-' :: t =>
    let (name, attached) := splitValue ('-' :: '-' :: t)
    (s.spellings.filter fun (_, spelling) => name.isPrefixOf spelling).map
      fun (switch, spelling) => (switch, spelling, attached)
  | '-' :: c :: t =>
    (s.spellings.filter fun (_, spelling) => spelling = ['-', c]).map
      fun (switch, spelling) => (switch, spelling, attachedTail t)
  | _ => []

/-- Whether all characters are decimal digits, of which there is at least one. -/
def isNumber (t : Text) : Bool := t ≠ [] && t.all fun c => (Unicode.digit? c).isSome

/-- Whether an argument is a negative number, perhaps with a point; a line feed may follow. -/
def isNegativeNumber : Text → Bool
  | '-' :: t =>
    let t := if t.getLast? = some '\n' then t.dropLast else t
    match Text.cut? ['.'] t with
    | some (whole, fraction) => (whole = [] || isNumber whole) && isNumber fraction
    | none => isNumber t
  | _ => false

/-- Tells what an argument is that is not the mark `--`. -/
def classify (s : Scope) (argument : Text) : Except ArgumentFault Word :=
  match argument with
  | '-' :: _ :: _ =>
    match candidates s argument with
    | [(switch, spelling, attached)] =>
      -- A short option has one dash and one letter.
      .ok (.option switch (spelling.length = 2) attached)
    | [] =>
      -- No option of the program looks like a negative number.
      if isNegativeNumber argument || ' ' ∈ argument then .ok .operand else .ok .unknown
    | several => .error (.ambiguous argument (several.map fun (_, spelling, _) => spelling))
  | _ => .ok .operand

/-- Tells of each argument what it is; behind the first mark `--` all are operands. -/
def words (s : Scope) : List Text → Except ArgumentFault (List (Text × Word))
  | [] => .ok []
  | argument :: arguments =>
    if argument = ['-', '-'] then
      .ok ((argument, .terminator) :: arguments.map (·, .operand))
    else do
      let word ← classify s argument
      return (argument, word) :: (← words s arguments)

/-! ## Requests -/

/-- What the program is asked for. -/
structure Request where
  command : Command
  file : Text
  lines : LineRange := {}
  config : Option Text := none
  summary : Bool := false
  deriving DecidableEq

/-- Why arguments make no request: help is asked for, or something is wrong. -/
inductive Stop
  | help (s : Scope)
  | refused (s : Scope) (fault : ArgumentFault)
  deriving DecidableEq

/-- What is read of a request, with the arguments that no one wants. -/
structure Draft where
  file : Option Text := none
  lines : LineRange := {}
  config : Option Text := none
  summary : Bool := false
  extras : List Text := []

namespace Draft

/-- Gives an option a value. The mark `--`, which can only be attached, stands for no value. -/
def set (d : Draft) (switch : Switch) (value : Text) : Except ArgumentFault Draft :=
  match switch with
  | .lines =>
    if value = ['-', '-'] then .ok { d with lines := {} }
    else
      match LineRange.ofText value with
      | .ok range => .ok { d with lines := range }
      | .error fault => .error (.badLines fault)
  | .config => .ok { d with config := if value = ['-', '-'] then none else some value }
  | .help | .summary => .ok d

/-- Puts an argument aside. -/
def setAside (d : Draft) (argument : Text) : Draft := { d with extras := d.extras ++ [argument] }

end Draft

/-- What is wrong with the text behind a short option without a value, if anything is: each
    further `h` asks for help once more, and any other character is no option. -/
def ignoredTail? : Text → Option Text
  | [] => none
  | 'h' :: t => ignoredTail? t
  | t => some t

/-- What is attached to an option without a value, if that is wrong. Options may be attached to
    a short option, even behind an equals sign, but no empty text; to a long one, nothing. -/
def Attached.ignored? (isShort : Bool) : Attached → Option Text
  | nothing => none
  | value t => if isShort ∧ t ≠ [] then ignoredTail? t else some t
  | tail t => ignoredTail? t

/-- Reads the arguments of a command. The first operand is the file; one mark `--` beside it is
    skipped. -/
def Draft.read (s : Scope) (d : Draft) : List (Text × Word) → Except Stop Draft
  | [] => .ok d
  | (argument, .unknown) :: rest => (d.setAside argument).read s rest
  | (argument, .operand) :: rest =>
    match d.file, rest with
    | some _, rest => (d.setAside argument).read s rest
    -- The mark right behind the file belongs to it.
    | none, (_, .terminator) :: rest => { d with file := some argument }.read s rest
    | none, rest => { d with file := some argument }.read s rest
  | (argument, .terminator) :: rest =>
    match d.file, rest with
    | none, (file, .operand) :: rest => { d with file := some file }.read s rest
    | _, rest => (d.setAside argument).read s rest
  | (_, .option switch isShort attached) :: rest =>
    if switch.takesValue then
      match attached, rest with
      | .value t, rest | .tail t, rest =>
        match d.set switch t with
        | .ok d => d.read s rest
        | .error fault => .error (.refused s fault)
      -- A value of its own may not look like an option.
      | .nothing, (t, .operand) :: rest =>
        match d.set switch t with
        | .ok d => d.read s rest
        | .error fault => .error (.refused s fault)
      | .nothing, _ => .error (.refused s (.missingValue switch))
    else
      match attached.ignored? isShort with
      | some t => .error (.refused s (.ignoredValue switch t))
      | none =>
        if switch = .help then .error (.help s) else { d with summary := true }.read s rest

namespace Request

/-- The request to a command; `extras` are the arguments put aside before its name. -/
def toCommand (extras : List Text) (c : Command) (arguments : List Text) :
    Except Stop Request := do
  let s : Scope := .command c
  let ws ← (words s arguments).mapError (.refused s)
  let d ← Draft.read s {} ws
  match d.file with
  | none => throw (.refused s .missingFile)
  | some file =>
    match extras ++ d.extras with
    | [] => return ⟨c, file, d.lines, d.config, d.summary⟩
    -- It is the program that complains about arguments that no one wants, not the command.
    | unwanted => throw (.refused .program (.unrecognized unwanted))

/-- The request of the arguments, of which `extras` are put aside already: the first operand is
    the name of a command, and the command gets whatever follows. -/
def ofWords (extras : List Text) : List (Text × Word) → Except Stop Request
  | [] => .error (.refused .program .missingCommand)
  | (argument, .unknown) :: rest => ofWords (extras ++ [argument]) rest
  | (_, .option switch isShort attached) :: _ =>
    match attached.ignored? isShort with
    | some t => .error (.refused .program (.ignoredValue switch t))
    | none => .error (.help .program)
  | [(_, .terminator)] => .error (.refused .program .missingCommand)
  | (name, .terminator) :: _ => .error (.refused .program (.unknownCommand name))
  | (name, .operand) :: rest =>
    match Command.named? name with
    | some c => toCommand extras c (rest.map (·.1))
    | none => .error (.refused .program (.unknownCommand name))

/-- The request that arguments make. -/
def ofArguments (arguments : List Text) : Except Stop Request := do
  ofWords [] (← (words .program arguments).mapError (.refused .program))

end Request

end TablePackage.CommandLine
