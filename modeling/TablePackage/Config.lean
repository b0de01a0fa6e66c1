import TablePackage.Log
import TablePackage.Naming
import TablePackage.Text.Ascii
import TablePackage.Value

/-!
# Configurations

A configuration has three sections: how things are named, how strictly a table is validated,
and how the log is shown. Each section, and each field in it, may be left out.

`Config.check` reads a configuration from a value. All faults of a value are found, not only
the first one, and they are told in the order in which sections and fields are declared;
entries that are no section or field are passed over. `Config.toValue` writes a configuration
with all its fields.
-/

namespace TablePackage

/-- How strictly a table is validated. -/
structure Strictness where
  requireKey : Bool := true
  deriving DecidableEq

/-- Which entries of the log are shown, and in which format. -/
structure Logging where
  level : Level := .warning
  format : Text := "%(asctime)s %(levelname)s %(name)s: %(message)s"
  deriving DecidableEq

/-- A configuration. -/
structure Config where
  naming : Naming := {}
  validation : Strictness := {}
  logging : Logging := {}
  deriving DecidableEq

/-! ## Faults -/

/-- Why a value does not fit. -/
inductive FieldCause
  /-- It is no map, which the named section has to be. -/
  | notModel (model : Text)
  | notText
  /-- It is a sequence of bytes that is no text. -/
  | notUnicode
  /-- It is a text that cannot be part of an identifier. -/
  | notFragment (t : Text)
  /-- It is no part of an identifier, and has surrogates, so that it cannot even be told. -/
  | unencodable (s : CodePoints)
  | notLevel
  | notBool
  /-- It is a text or an integer, but none that stands for a truth value. -/
  | unclearBool
  deriving DecidableEq

/-- Where the first surrogates are in a sequence, and how many of them stand together. -/
def firstSurrogates (s : CodePoints) : Nat × CodePoints :=
  let before := s.takeWhile (!·.isSurrogate)
  (before.length, (s.drop before.length).takeWhile (·.isSurrogate))

/-- What is said about a sequence that stands between quotes and has surrogates. -/
def encodingComplaint (s : CodePoints) : Text :=
  let (before, found) := firstSurrogates s
  let first := before + 1
  let which : Text :=
    match found with
    | [.surrogate n] =>
      "character '" ++ Quoted.escapeNumber n ++ "' in position " ++ Text.ofNat first
    | found =>
      "characters in position " ++ Text.ofNat first ++ "-" ++
        Text.ofNat (first + found.length - 1)
  "'utf-8' codec can't encode " ++ which ++ ": surrogates not allowed"

/-- The name of a cause. -/
def FieldCause.name : FieldCause → Text
  | .notModel _ => "model_type"
  | .notText => "string_type"
  | .notUnicode => "string_unicode"
  | .notFragment _ | .unencodable _ => "value_error"
  | .notLevel => "literal_error"
  | .notBool => "bool_type"
  | .unclearBool => "bool_parsing"

/-- The wording of a cause. -/
def FieldCause.message : FieldCause → Text
  | .notModel model => "Input should be a valid dictionary or instance of " ++ model
  | .notText => "Input should be a valid string"
  | .notUnicode => "Input should be a valid string, unable to parse raw data as a unicode string"
  | .notFragment t =>
    "Value error, '" ++ t ++ "' may only contain letters, digits and underscores"
  | .unencodable s => encodingComplaint s
  | .notLevel => "Input should be 'DEBUG', 'INFO', 'WARNING' or 'ERROR'"
  | .notBool => "Input should be a valid boolean"
  | .unclearBool => "Input should be a valid boolean, unable to interpret input"

/-- The sequence that cannot be told, if that is the cause. -/
def FieldCause.unencodable? : FieldCause → Option CodePoints
  | .unencodable s => some s
  | _ => none

/-- A value that does not fit, and the names of the fields that lead to it. -/
structure FieldFault where
  location : List Text
  cause : FieldCause
  input : Value

/-- The fault of a value at the end of the way. -/
def FieldFault.here (cause : FieldCause) (input : Value) : FieldFault := ⟨[], cause, input⟩

/-- The fault seen from the section that has it in the field `name`. -/
def FieldFault.within (name : Text) (f : FieldFault) : FieldFault :=
  { f with location := name :: f.location }

/-- Something read from a value, or all faults of the value. -/
abbrev Checked (α : Type) := Except (List FieldFault) α

namespace Checked

/-- Applies what was read first to what was read next; the faults of both are kept. -/
def ap {α β : Type} : Checked (α → β) → Checked α → Checked β
  | .ok f, .ok a => .ok (f a)
  | .ok _, .error es => .error es
  | .error es, .ok _ => .error es
  | .error es, .error fs => .error (es ++ fs)

/-- Reads the field `name` of a section; a field that is left out has its default. -/
def field {α : Type} (entries : List (Value × Value)) (name : Text) (default : α)
    (check : Value → Checked α) : Checked α :=
  match Value.entry? name entries with
  | none => .ok default
  | some v => (check v).mapError (·.map (.within name))

end Checked

/-! ## Scalars -/

namespace Value

/-- Reads a text. Bytes are taken for the text that they encode, and surrogates are replaced. -/
def checkText (v : Value) : Checked Text :=
  match v with
  | .text t => .ok t
  | .points s => .ok s.shown
  | .bytes b =>
    match Utf8.decode b with
    | .ok t => .ok t
    | .error _ => .error [.here .notUnicode v]
  | _ => .error [.here .notText v]

/-- Whether a text has only word characters, or only these before one final line feed. -/
def isFragment (t : Text) : Bool :=
  let rest := t.dropWhile Ascii.isWord
  rest = [] || rest = ['\n']

/-- Reads a part of an identifier. -/
def checkFragment (v : Value) : Checked Text :=
  match v, v.checkText with
  | .points s, _ => .error [.here (.unencodable s) v]
  | _, .error es => .error es
  | _, .ok t => if isFragment t then .ok t else .error [.here (.notFragment t) v]

/-- The truth value that a text stands for, in any letter case. -/
def truthOfText? (t : Text) : Option Bool :=
  let word := String.ofList (t.map Char.toLower)
  if word ∈ ["1", "t", "true", "on", "y", "yes"] then some true
  else if word ∈ ["0", "f", "false", "off", "n", "no"] then some false
  else none

/-- The integer of 64 bits that a number is, if it is one; a float has to be strictly between
    the bounds. -/
def smallInt? : Value → Option Int
  | .int i => if -Nat.pow 2 63 ≤ i ∧ i < Nat.pow 2 63 then some i else none
  | .float x => x.toInt?.filter fun i => -Nat.pow 2 63 < i ∧ i < Nat.pow 2 63
  | _ => none

/-- Reads a truth value. -/
def checkBool (v : Value) : Checked Bool :=
  let unclear : Checked Bool := .error [.here .unclearBool v]
  let ofText (t : Text) : Checked Bool :=
    match truthOfText? t with
    | some b => .ok b
    | none => unclear
  match v with
  | .bool b => .ok b
  | .text t => ofText t
  | .points _ => .error [.here .notUnicode v]
  | .bytes b =>
    match Utf8.decode b with
    | .ok t => ofText t
    | .error _ => unclear
  | v =>
    match v.smallInt? with
    | some 0 => .ok false
    | some 1 => .ok true
    | some _ => unclear
    | none => .error [.here .notBool v]

/-- Reads a level. -/
def checkLevel (v : Value) : Checked Level :=
  match v with
  | .text t =>
    match [Level.debug, .info, .warning, .error].find? (·.name = t) with
    | some level => .ok level
    | none => .error [.here .notLevel v]
  | .points _ => .error [.here .notUnicode v]
  | v => .error [.here .notLevel v]

end Value

/-! ## Sections -/

/-- Reads a section, which has to be a map. -/
def Checked.ofMap {α : Type} (model : Text) (read : List (Value × Value) → Checked α)
    (v : Value) : Checked α :=
  match v with
  | .map entries => read entries
  | v => .error [.here (.notModel model) v]

/-- Reads the names' section. -/
def Naming.check : Value → Checked Naming :=
  Checked.ofMap "NamingConfig" fun entries =>
    let field (name : Text) (default : Text) :=
      Checked.field entries name default Value.checkFragment
    let d : Naming := {}
    (Checked.ap (.ok Naming.mk) (field "create_prefix" d.create)).ap
        (field "update_prefix" d.update) |>.ap
        (field "delete_prefix" d.delete) |>.ap
        (field "get_by_id_prefix" d.getById) |>.ap
        (field "package_suffix" d.packageSuffix)

/-- Reads the validation's section. -/
def Strictness.check : Value → Checked Strictness :=
  Checked.ofMap "ValidationConfig" fun entries =>
    let d : Strictness := {}
    Checked.ap (.ok Strictness.mk)
      (Checked.field entries "require_primary_key" d.requireKey Value.checkBool)

/-- Reads the log's section. -/
def Logging.check : Value → Checked Logging :=
  Checked.ofMap "LoggingConfig" fun entries =>
    let d : Logging := {}
    (Checked.ap (.ok Logging.mk) (Checked.field entries "level" d.level Value.checkLevel)).ap
      (Checked.field entries "format" d.format Value.checkText)

/-- Reads a configuration. -/
def Config.check : Value → Checked Config :=
  Checked.ofMap "GeneratorConfig" fun entries =>
    (Checked.ap (.ok Config.mk) (Checked.field entries "naming" {} Naming.check)).ap
        (Checked.field entries "validation" {} Strictness.check) |>.ap
        (Checked.field entries "logging" {} Logging.check)

/-! ## Writing -/

/-- A map with texts as its keys. -/
def Value.record (fields : List (Text × Value)) : Value :=
  .map (fields.map fun (name, v) => (.text name, v))

/-- The names' section with all its fields. -/
def Naming.toValue (n : Naming) : Value :=
  .record [("create_prefix", .text n.create), ("update_prefix", .text n.update),
    ("delete_prefix", .text n.delete), ("get_by_id_prefix", .text n.getById),
    ("package_suffix", .text n.packageSuffix)]

/-- The validation's section with its field. -/
def Strictness.toValue (s : Strictness) : Value :=
  .record [("require_primary_key", .bool s.requireKey)]

/-- The log's section with all its fields. -/
def Logging.toValue (l : Logging) : Value :=
  .record [("level", .text l.level.name), ("format", .text l.format)]

/-- A configuration with all its fields. -/
def Config.toValue (c : Config) : Value :=
  .record [("naming", c.naming.toValue), ("validation", c.validation.toValue),
    ("logging", c.logging.toValue)]

end TablePackage
