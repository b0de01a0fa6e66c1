import TablePackage.Calendar
import TablePackage.Number.Binary64
import TablePackage.Text.Utf8

/-!
# Values

The values that a configuration is written with: scalars, lists and maps, and the further kinds
that a configuration file may bring in where none is expected (dates, bytes, pairs, sets). A
list or a map of such a file may even be part of itself; where it comes back, its value ends
(`Value.again`).
-/

namespace TablePackage

/-- A value. -/
inductive Value
  | null
  | bool (b : Bool)
  | int (i : Int)
  | float (x : Binary64)
  | text (t : Text)
  /-- A sequence of code points that is no text, as there are surrogates in it. -/
  | points (s : CodePoints)
  | bytes (b : Bytes)
  | date (d : Date)
  | moment (m : Moment)
  | list (items : List Value)
  | pair (first second : Value)
  | map (entries : List (Value × Value))
  | set (items : List Value)
  /-- A list or a map inside itself. -/
  | again (isMap : Bool)

namespace Value

/-- The value of a sequence of code points. -/
def ofPoints (s : CodePoints) : Value :=
  match s.text? with
  | some t => .text t
  | none => .points s

/-- The value of the entry with a text as its key. -/
def entry? (name : Text) : List (Value × Value) → Option Value
  | [] => none
  | (.text key, v) :: entries => if key = name then some v else entry? name entries
  | _ :: entries => entry? name entries

/-- The number that a scalar is, for the comparison of keys: booleans are zero and one. -/
def number? : Value → Option (Int × Nat)
  | .bool b => some (if b then 1 else 0, 1)
  | .int i => some (i, 1)
  | .float x => x.toRatio?
  | _ => none

/-- Whether two scalars are the same key. Numbers are the same if they are equal, of whatever
    kind they are. -/
def sameKey : Value → Value → Bool
  | .null, .null => true
  | .text a, .text b => a = b
  | .points a, .points b => a = b
  | .bytes a, .bytes b => a = b
  | .date a, .date b => a = b
  | .moment a, .moment b => a.same b
  | .float (.infinite a), .float (.infinite b) => a = b
  | .float (.nan a), .float (.nan b) => a = b
  | a, b =>
    -- Ratios are equal if their cross products are.
    match a.number?, b.number? with
    | some (n, d), some (m, e) => n * e = m * d
    | _, _ => false

/-- The entries with one more: a key that is there already keeps its place and gets the new
    value. -/
def putEntry {β : Type} (key : Value) (value : β) : List (Value × β) → List (Value × β)
  | [] => [(key, value)]
  | (k, v) :: entries =>
    if sameKey k key then (k, value) :: entries else (k, v) :: putEntry key value entries

/-! ## Display

The form in which messages show a value. -/

/-- The name of the kind of a value. -/
def kindName : Value → Text
  | .null => "NoneType"
  | .bool _ => "bool"
  | .int _ => "int"
  | .float _ => "float"
  | .text _ | .points _ => "str"
  | .bytes _ => "bytes"
  | .date _ => "date"
  | .moment _ => "datetime"
  | .list _ | .again false => "list"
  | .pair .. => "tuple"
  | .map _ | .again true => "dict"
  | .set _ => "set"

mutual

/-- The form of a value. -/
def display : Value → Text
  | .null => "None"
  | .bool b => if b then "True" else "False"
  | .int i => Text.ofInt i
  | .float x => x.toText
  | .text t => Quoted.ofText t
  | .points s => Quoted.ofCodePoints s
  | .bytes b => Quoted.ofBytes b
  | .date d => d.display
  | .moment m => m.display
  | .list items => "[" ++ Text.join ", " (displayItems items) ++ "]"
  | .pair a b => "(" ++ display a ++ ", " ++ display b ++ ")"
  | .map entries => ['\x7b'] ++ Text.join ", " (displayEntries entries) ++ ['\x7d']
  | .set [] => "set()"
  | .set (v :: items) => ['\x7b'] ++ Text.join ", " (displayItems (v :: items)) ++ ['\x7d']
  | .again false => "[...]"
  | .again true => ['\x7b', '.', '.', '.', '\x7d']

/-- The forms of some values. -/
def displayItems : List Value → List Text
  | [] => []
  | v :: items => display v :: displayItems items

/-- The forms of the entries of a map. -/
def displayEntries : List (Value × Value) → List Text
  | [] => []
  | (k, v) :: entries => (display k ++ ": " ++ display v) :: displayEntries entries

end

mutual

/-- Whether a value has an integer with more than 4300 digits, which are too many to write. -/
def isUnwritable : Value → Bool
  | .int i => Nat.pow 10 4300 ≤ i.natAbs
  | .list items => areUnwritable items
  | .set items => areUnwritable items
  | .pair a b => isUnwritable a || isUnwritable b
  | .map entries => haveUnwritable entries
  | _ => false

/-- Whether one of some values has such an integer. -/
def areUnwritable : List Value → Bool
  | [] => false
  | v :: items => isUnwritable v || areUnwritable items

/-- Whether one of the entries of a map has such an integer. -/
def haveUnwritable : List (Value × Value) → Bool
  | [] => false
  | (k, v) :: entries => isUnwritable k || isUnwritable v || haveUnwritable entries

end

/-- The least number of characters that take more than `limit` bytes, counted from the start of
    a text, less one: how many characters fit. -/
def fitting (limit : Nat) : Text → Text
  | [] => []
  | c :: t =>
    let size := (Utf8.encodeChar c).length
    if size ≤ limit then c :: fitting (limit - size) t else []

/-- The form of a value in at most 50 bytes: of a longer one, the first 25 bytes and the last
    24 of it, without the characters that these would cut. Of a value that cannot be written
    there is only its kind. -/
def displayShort (v : Value) : Text :=
  let t : Text :=
    if v.isUnwritable then "<unprintable " ++ v.kindName ++ " object>" else v.display
  if (Utf8.encode t).length ≤ 50 then t
  else fitting 25 t ++ "..." ++ (fitting 24 t.reverse).reverse

end Value

end TablePackage
