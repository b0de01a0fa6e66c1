import TablePackage.Number.Binary64
import TablePackage.Text.Ascii
import TablePackage.Unicode.Blank
import TablePackage.Unicode.Digit

/-!
# Number literals

The written forms of numbers that are read from texts: with blanks around them, a sign, and
decimal digits of any script, which single underscores may group. Integers may be written to
other bases than ten, and then with a mark of the base.
-/

namespace TablePackage.Literal

/-- A blank that may stand around a number: of the ASCII characters only those that are blanks
    there. -/
def isBlank (c : Char) : Bool :=
  if c.toNat < 128 then Ascii.isBlank c else Unicode.isBlank c

/-- How many decimal digits an integer may have. -/
def digitLimit : Nat := 4300

/-- The value of a digit to a base up to thirty-six: a decimal digit, or a letter of ASCII in
    either case. -/
def digitIn? (base : Nat) (c : Char) : Option Nat :=
  let letter : Option Nat := if c.isAlpha then some (c.toLower.toNat - 'a'.toNat + 10) else none
  ((Unicode.digit? c).or letter).filter (· < base)

/-- The values of digits to a base, of which single underscores may stand between two. -/
def digitValues? (base : Nat) : Text → Option (List Nat)
  | [] => none
  | [c] => (digitIn? base c).map ([·])
  | c :: '_' :: t => do return (← digitIn? base c) :: (← digitValues? base t)
  | c :: t => do return (← digitIn? base c) :: (← digitValues? base t)

/-- The number with these digits to a base. -/
def number (base : Nat) (digits : List Nat) : Nat := digits.foldl (fun n d => n * base + d) 0

/-- A sign, if there is one: whether it is a minus, and the rest. -/
def sign : Text → Bool × Text
  | '-' :: t => (true, t)
  | '+' :: t => (false, t)
  | t => (false, t)

/-- The letter that marks a base behind a zero. -/
def baseMark? : Nat → Option Char
  | 2 => some 'b'
  | 8 => some 'o'
  | 16 => some 'x'
  | _ => none

/-- The text without the mark of its base, if it has one. -/
def skipMark (base : Nat) : Text → Text
  | z :: c :: t =>
    if Unicode.digit? z = some 0 ∧ some c.toLower = baseMark? base then t else z :: c :: t
  | t => t

/-- Why a text is no integer. -/
inductive IntFault
  | malformed
  /-- It starts with more decimal digits than are read. -/
  | tooLong (count : Nat)
  deriving DecidableEq

/-- The integer that a text writes to a base. Only to the base ten are digits limited, as only
    there their number makes the reading slow. -/
def integer (base : Nat) (t : Text) : Except IntFault Int :=
  let (negative, t) := sign (Text.trimBy isBlank t)
  let t := skipMark base t
  let count := (t.takeWhile fun c => (digitIn? base c).isSome).length
  if base = 10 ∧ digitLimit < count then .error (.tooLong count)
  else
    match digitValues? base t with
    | none => .error .malformed
    | some digits =>
      if base = 10 ∧ digitLimit < digits.length then .error (.tooLong digits.length)
      else
        let n : Int := number base digits
        .ok (if negative then -n else n)

/-- The integer that a text writes in decimal. -/
def int? (t : Text) : Option Int := (integer 10 t).toOption

/-! ## Decimal fractions -/

/-- The number `n * 10 ^ e`, rounded; exponents far beyond the range are not computed. -/
def scaled (negative : Bool) (n : Nat) (e : Int) : Binary64 :=
  let top := e + (Nat.toDigits 10 n).length
  if n = 0 ∨ top < -400 then .zero negative
  else if 400 < top then .infinite negative
  else if e < 0 then .ofRatio negative n (Nat.pow 10 (-e).toNat)
  else .ofRatio negative (n * Nat.pow 10 e.toNat) 1

/-- The exponent at the end of a number, if it has one. -/
def exponent? : Text → Option Int
  | [] => some 0
  | e :: t =>
    if e = 'e' ∨ e = 'E' then do
      let (negative, t) := sign t
      if t = [] ∨ !t.all Char.isDigit then none
      else
        let n : Int := number 10 (t.filterMap Unicode.digit?)
        return if negative then -n else n
    else none

/-- The number that a text writes in decimal, perhaps with a point and an exponent, or as
    `inf`, `infinity` or `nan`. -/
def float? (t : Text) : Option Binary64 := do
  let ascii (c : Char) : Char :=
    match Unicode.digit? c with
    | some d => Nat.digitChar d
    | none => c.toLower
  let (negative, t) := sign ((Text.trimBy isBlank t).map ascii)
  match String.ofList t with
  | "inf" | "infinity" => return .infinite negative
  | "nan" => return .nan 0
  | _ =>
    let whole := t.takeWhile Char.isDigit
    let rest := t.dropWhile Char.isDigit
    let (fraction, rest) :=
      match rest with
      | '.' :: rest => (rest.takeWhile Char.isDigit, rest.dropWhile Char.isDigit)
      | rest => ([], rest)
    if whole = [] ∧ fraction = [] then none
    else
      let e ← exponent? rest
      let n := number 10 ((whole ++ fraction).filterMap Unicode.digit?)
      return scaled negative n (e - fraction.length)

end TablePackage.Literal
