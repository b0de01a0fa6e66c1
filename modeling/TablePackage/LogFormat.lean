import TablePackage.Log
import TablePackage.Text.Ascii
import TablePackage.Text.Quoted
import TablePackage.Unicode.Digit
import TablePackage.Unicode.Fold
import TablePackage.Unicode.Word

/-!
# Formats of the log

A format says how an entry of the log is written: it is a text with fields such as
`%(levelname)-8s`, where a percent sign stands for itself if it is doubled. A field may be
padded to a width, and cut down to a precision; it may be shown between quotes.
-/

namespace TablePackage

/-- What a field of a format shows. -/
inductive LogField
  | time
  | level
  | origin
  | message
  deriving DecidableEq

/-- The form in which a field is shown. -/
inductive LogForm
  | plain
  | quoted
  /-- Between quotes, and in ASCII. -/
  | ascii
  deriving DecidableEq

/-- A part of a format. -/
inductive LogPiece
  | char (c : Char)
  | field (field : LogField) (form : LogForm) (left : Bool) (width : Nat)
      (precision : Option Nat)
  deriving DecidableEq

namespace LogFormat

/-- The format that is used: an empty one stands for the message alone. -/
def effective (format : Text) : Text := if format = [] then "%(message)s" else format

/-- The field with a name. -/
def field? (name : Text) : Option LogField :=
  match String.ofList name with
  | "asctime" => some .time
  | "levelname" => some .level
  | "name" => some .origin
  | "message" => some .message
  | _ => none

/-! ## Usable formats -/

/-- Reads a star or a number, if there is one. -/
def skipCount : Text → Text
  | '*' :: t => t
  | t => t.dropWhile fun c => (Unicode.digit? c).isSome

/-- Reads what looks like a field. -/
def fieldLike? (t : Text) : Option (Unit × Text) := do
  let t ← Text.after? (· == ·) "%(" t
  let (_, t) ← Text.run? Unicode.isWord t
  let t ← Ascii.char? ')' t
  let t := skipCount (t.dropWhile (· ∈ ['#', '0', '+', ' ', '-']))
  let t :=
    match t with
    -- A point without a precision behind it cannot be passed.
    | '.' :: rest => if skipCount rest = rest then t else skipCount rest
    | t => t
  let c ← t.head?
  let kinds : Text := "diouxefgcrsa%"
  if kinds.any (Unicode.sameLetter · c) then some ((), t.drop 1) else none

/-- Whether a format has something that looks like a field. -/
def isUsable (format : Text) : Bool := (Text.find? fieldLike? (effective format)).isSome

/-- The message on a format that is not usable. -/
def complaint (format : Text) : Text := "Invalid format '" ++ format ++ "' for '%' style"

/-! ## Parts of a format -/

/-- Reads a name in parentheses, if there is one. -/
def name (t : Text) : Option Text × Text :=
  match t with
  | '(' :: t => (some (t.takeWhile (· ≠ ')')), (t.dropWhile (· ≠ ')')).drop 1)
  | t => (none, t)

/-- Reads the digits of a number. -/
def number (t : Text) : Nat × Text :=
  ((t.takeWhile Char.isDigit).foldl (fun n c => n * 10 + (c.toNat - 48)) 0,
    t.dropWhile Char.isDigit)

/-- Reads a precision, if there is one. -/
def precision (t : Text) : Option Nat × Text :=
  match t with
  | '.' :: t => ((some (number t).1), (number t).2)
  | t => (none, t)

/-- Reads the mark of a size, if there is one; it has no meaning. -/
def skipSize : Text → Text
  | 'h' :: t => t
  | 'l' :: t => t
  | 'L' :: t => t
  | t => t

/-- The form that a letter stands for. -/
def form? : Char → Option LogForm
  | 's' => some .plain
  | 'r' => some .quoted
  | 'a' => some .ascii
  | _ => none

/-- The part that a percent sign stands for, with what follows the sign. -/
def piece? (t : Text) : Option (LogPiece × Text) :=
  let (name, t) := name t
  let isFlag (c : Char) : Bool := c ∈ ['-', '+', ' ', '#', '0']
  let isLeft := '-' ∈ t.takeWhile isFlag
  let (width, t) := number (t.dropWhile isFlag)
  let (precision, t) := precision t
  let isReadable :=
    width < Nat.pow 2 63 && precision.all (· < Nat.pow 2 31) && name.all (field? · |>.isSome)
  match skipSize t with
  | [] => none
  | c :: t =>
    if !isReadable then none
    else if c = '%' then some (.char '%', t)
    else do
      let field ← name.bind field?
      return (.field field (← form? c) isLeft width precision, t)

theorem length_name (t : Text) : (name t).2.length ≤ t.length := by
  unfold name
  split
  · rename_i t
    have := Text.length_dropWhile_le (· ≠ ')') t
    simp only [List.length_drop, List.length_cons]
    omega
  · simp

theorem length_number (t : Text) : (number t).2.length ≤ t.length :=
  Text.length_dropWhile_le ..

theorem length_precision (t : Text) : (precision t).2.length ≤ t.length := by
  unfold precision
  split
  · rename_i t
    have := length_number t
    simp only [List.length_cons]
    omega
  · simp

theorem length_skipSize (t : Text) : (skipSize t).length ≤ t.length := by
  unfold skipSize
  split <;> simp

theorem piece?_length {t r : Text} {p : LogPiece} (h : piece? t = some (p, r)) :
    r.length < t.length := by
  have h₁ := length_name t
  have h₂ := Text.length_dropWhile_le (fun c => c ∈ ['-', '+', ' ', '#', '0']) (name t).2
  have h₃ := length_number ((name t).2.dropWhile fun c => c ∈ ['-', '+', ' ', '#', '0'])
  have h₄ := length_precision
    (number ((name t).2.dropWhile fun c => c ∈ ['-', '+', ' ', '#', '0'])).2
  have h₅ := length_skipSize (precision
    (number ((name t).2.dropWhile fun c => c ∈ ['-', '+', ' ', '#', '0'])).2).2
  simp only [piece?] at h
  split at h
  · cases h
  · rename_i c t' e
    rw [e, List.length_cons] at h₅
    have : r = t' := by
      split at h
      · cases h
      · split at h
        · cases h; rfl
        · obtain ⟨field, _, h⟩ := Option.bind_eq_some_iff.1 h
          obtain ⟨form, _, h⟩ := Option.bind_eq_some_iff.1 h
          cases h
          rfl
    subst this
    omega

/-- The parts of a format, if it can be read. -/
def pieces? : Text → Option (List LogPiece)
  | [] => some []
  | c :: t =>
    if c = '%' then
      match _h : piece? t with
      | some (p, r) => (pieces? r).map (p :: ·)
      | none => none
    else (pieces? t).map (.char c :: ·)
termination_by t => t.length
decreasing_by
  · have := piece?_length _h
    simp only [List.length_cons]
    omega
  · simp

/-! ## Entries -/

/-- A text padded with blanks to a width. -/
def pad (left : Bool) (width : Nat) (t : Text) : Text :=
  let blanks := List.replicate (width - t.length) ' '
  if left then t ++ blanks else blanks ++ t

/-- What a field shows of an entry that is written at some time. -/
def shown (time : Text) (e : LogEntry) : LogField → Text
  | .time => time
  | .level => e.level.name
  | .origin => e.origin.name
  | .message => e.message

/-- A text in a form. -/
def formed (t : Text) : LogForm → Text
  | .plain => t
  | .quoted => Quoted.ofText t
  | .ascii => Quoted.asciiOfText t

/-- How a part of a format is written. -/
def write (time : Text) (e : LogEntry) : LogPiece → Text
  | .char c => [c]
  | .field field form left width precision =>
    let t := formed (shown time e field) form
    pad left width ((precision.map t.take).getD t)

/-- The lines of those entries that matter enough. A format that cannot be read shows none. -/
def written (format time : Text) (least : Level) (log : List LogEntry) : Text :=
  match pieces? (effective format) with
  | none => []
  | some pieces =>
    Text.lines ((log.filter (least.rank ≤ ·.level.rank)).map fun e => pieces.flatMap (write time e))

end LogFormat

end TablePackage
