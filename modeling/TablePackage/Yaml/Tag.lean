import TablePackage.Yaml.Cursor
import TablePackage.Yaml.Timestamp

/-!
# Tags

What kind of value a node stands for. A plain scalar without a tag gets one by its form.
-/

namespace TablePackage.Yaml

/-- The kinds of nodes. -/
inductive Tag
  | null
  | bool
  | int
  | float
  | timestamp
  | binary
  | str
  | seq
  | map
  | set
  | pairs
  /-- A key whose value is merged into the map. -/
  | mergeKey
  /-- A key whose value stands for the map where a scalar is needed. -/
  | defaultKey
  | other
  deriving DecidableEq

namespace Tag

/-- The kind that an address names. -/
def ofAddress (address : Text) : Tag :=
  match Text.after? (· == ·) "tag:yaml.org,2002:" address with
  | none => .other
  | some name =>
    match String.ofList name with
    | "null" => .null
    | "bool" => .bool
    | "int" => .int
    | "float" => .float
    | "timestamp" => .timestamp
    | "binary" => .binary
    | "str" => .str
    | "seq" => .seq
    | "map" => .map
    | "set" => .set
    | "omap" | "pairs" => .pairs
    | "merge" => .mergeKey
    | "value" => .defaultKey
    | _ => .other

/-! ## Plain scalars -/

/-- A number's text without its sign. -/
def unsigned : Text → Text
  | '+' :: t => t
  | '-' :: t => t
  | t => t

/-- Whether a text is not empty and has only characters of a class. -/
def isRun (p : Char → Bool) (t : Text) : Bool := t ≠ [] && t.all p

/-- A digit or the underscore, by which digits may be grouped. -/
def isDigitOrUnderscore (c : Char) : Bool := c.isDigit || c = '_'

/-- A digit and then digits and underscores. -/
def isDigits : Text → Bool
  | [] => false
  | d :: t => d.isDigit && t.all isDigitOrUnderscore

/-- The parts after the first one of a number to the base sixty: at least one, each below
    sixty. -/
def isSixtieths (parts : List Text) : Bool :=
  parts ≠ [] && parts.all fun part =>
    match part with
    | [d] => d.isDigit
    | [c, d] => '0' ≤ c && c ≤ '5' && d.isDigit
    | _ => false

/-- An integer: binary, octal, decimal, hexadecimal, or to the base sixty. -/
def isInt (t : Text) : Bool :=
  match unsigned t with
  | '0' :: 'b' :: t => isRun (fun c => c = '0' || c = '1' || c = '_') t
  | '0' :: 'x' :: t => isRun (fun c => (hexDigit? c).isSome || c = '_') t
  | '0' :: t => t.all fun c => ('0' ≤ c && c ≤ '7') || c = '_'
  | t =>
    match t.splitOn ':' with
    | [whole] => isDigits whole
    | whole :: parts => isDigits whole && isSixtieths parts
    | [] => false

/-- What may follow the point of a number: digits, and an exponent with a sign. -/
def isFraction (t : Text) : Bool :=
  match t.dropWhile isDigitOrUnderscore with
  | [] => true
  | e :: sign :: digits =>
    (e = 'e' || e = 'E') && (sign = '+' || sign = '-') && isRun Char.isDigit digits
  | _ => false

/-- A number with a point, or what stands for an infinity or for no number. -/
def isFloat (t : Text) : Bool :=
  let u := unsigned t
  let whole := u.takeWhile (· ≠ '.')
  match u.dropWhile (· ≠ '.') with
  | '.' :: fraction =>
    if whole = [] then
      String.ofList fraction ∈ ["inf", "Inf", "INF"] ||
        t = u && (String.ofList fraction ∈ ["nan", "NaN", "NAN"] ||
          (fraction.head?.any Char.isDigit && isFraction fraction))
    else
      match whole.splitOn ':' with
      | [whole] => isDigits whole && isFraction fraction
      | whole :: parts =>
        isDigits whole && isSixtieths parts && fraction.all isDigitOrUnderscore
      | [] => false
  | _ => false

/-- Whether a plain scalar stands for a truth value. -/
def isBool (t : Text) : Bool :=
  String.ofList t ∈
    ["yes", "Yes", "YES", "no", "No", "NO", "true", "True", "TRUE", "false", "False", "FALSE",
      "on", "On", "ON", "off", "Off", "OFF"]

/-- Whether a plain scalar stands for nothing. -/
def isNull (t : Text) : Bool := String.ofList t ∈ ["", "~", "null", "Null", "NULL"]

/-- The text without a line feed at its end, if something is left then. -/
def trimFeed (t : Text) : Text :=
  if 2 ≤ t.length ∧ t.getLast? = some '\n' then t.dropLast else t

/-- The kind that a scalar has by its form. A line feed at its end does not change it. -/
def ofForm (t : Text) : Tag :=
  let u := trimFeed t
  if isBool u then .bool
  else if isFloat u then .float
  else if isInt u then .int
  else if u = ['<', '<'] then .mergeKey
  else if isNull u then .null
  else if (Timestamp.ofText? t).any (·.isPlain) then .timestamp
  else if u = ['='] then .defaultKey
  else if u = ['!'] ∨ u = ['&'] ∨ u = ['*'] then .other
  else .str

end Tag

end TablePackage.Yaml
