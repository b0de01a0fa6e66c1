import TablePackage.Number.Literal
import TablePackage.Unicode.Lower
import TablePackage.Yaml.Timestamp

/-!
# What scalars mean

The values that scalars write: numbers, truth values, days and moments, and bytes, each in the
form of its kind.
-/

namespace TablePackage.Yaml

/-! ## Numbers -/

/-- A sign, if there is one: whether it is a minus, and the rest. -/
def signOf : CodePoints → Bool × CodePoints
  | .char '-' :: s => (true, s)
  | .char '+' :: s => (false, s)
  | s => (false, s)

/-- An integer to a base. -/
def literalInt (base : Nat) (s : CodePoints) : Except Fault Int :=
  match Literal.integer base s.shown with
  | .ok i => .ok i
  | .error .malformed => .error (.scalar (.notInteger base s))
  | .error (.tooLong count) => .error (.scalar (.tooManyDigits count))

/-- An integer: binary, octal, decimal, hexadecimal, or to the base sixty. -/
def intOf (s : CodePoints) : Except Fault Int := do
  let s := s.filter (· ≠ .char '_')
  if s = [] then throw (.scalar .emptyNumber)
  let (negative, s) := signOf s
  let n : Int ←
    match s with
    | [] => throw (.scalar .emptyNumber)
    | [.char '0'] => pure 0
    | .char '0' :: .char 'b' :: s => literalInt 2 s
    | .char '0' :: .char 'x' :: s => literalInt 16 s
    | .char '0' :: _ => literalInt 8 s
    | s =>
      if .char ':' ∈ s then do
        let parts ← (s.splitOn (.char ':')).mapM (literalInt 10)
        pure (parts.foldl (fun n d => n * 60 + d) 0)
      else literalInt 10 s
  return if negative then -n else n

/-- A number with a point. -/
def literalFloat (s : CodePoints) : Except Fault Binary64 :=
  match Literal.float? s.shown with
  | some x => .ok x
  | none => .error (.scalar (.notFloat s))

/-- The floating-point number with these places to the base sixty, of which the last one is worth
    `worth`; they are added from the last one on. -/
def sumOfPlaces (worth : Nat) (sum : Binary64) : List Binary64 → Except Fault Binary64
  | [] => .ok sum
  | x :: places =>
    match Binary64.ofNat? worth with
    | some w => sumOfPlaces (worth * 60) (sum.add (x.mul w)) places
    | none => .error (.scalar .tooManyPlaces)

/-- A floating-point number, perhaps to the base sixty. What is written as no number is the same
    everywhere; what else is none, is another one each time, with the payload that is given. -/
def floatOf (payload : Nat) (s : CodePoints) : Except Fault Binary64 := do
  let s := Unicode.lowerPoints (s.filter (· ≠ .char '_'))
  if s = [] then throw (.scalar .emptyNumber)
  let (negative, s) := signOf s
  let x ←
    if s.shown = ".inf".toList then pure (.infinite false)
    else if s.shown = ".nan".toList then return .nan 0
    else if .char ':' ∈ s then do
      let parts ← (s.splitOn (.char ':')).mapM literalFloat
      sumOfPlaces 1 (.zero false) parts.reverse
    else literalFloat s
  return (if negative then x.neg else x).withPayload payload

/-! ## Truth values and timestamps -/

/-- A truth value, in any letter case. -/
def boolOf (s : CodePoints) : Except Fault Bool :=
  let word := Unicode.lowerPoints s
  if String.ofList word.shown ∈ ["yes", "true", "on"] then .ok true
  else if String.ofList word.shown ∈ ["no", "false", "off"] then .ok false
  else .error (.scalar (.notBool word))

/-- A day or a moment. -/
def timestampOf (s : CodePoints) : Except Fault Value :=
  match Timestamp.ofText? s.shown with
  | some s => s.toValue.mapError (.scalar <| .outOfRange ·)
  | none => .error (.scalar .notTimestamp)

/-! ## Bytes -/

/-- The value of a digit to the base sixty-four. -/
def digit64? (c : Char) : Option Nat :=
  if c.isUpper then some (c.toNat - 'A'.toNat)
  else if c.isLower then some (c.toNat - 'a'.toNat + 26)
  else if c.isDigit then some (c.toNat - '0'.toNat + 52)
  else if c = '+' then some 62
  else if c = '/' then some 63
  else none

/-- The bytes of digits to the base sixty-four, four for three bytes; `count` digits with the
    value `bits` wait to be completed. Other characters are passed over, and padding that
    completes a group ends the bytes. -/
def bytesFrom (count bits pads : Nat) : Text → Except Fault Bytes
  | [] => if count = 0 then .ok [] else .error .unconstructible
  | c :: t =>
    if c = '=' then
      if 2 ≤ count ∧ 4 ≤ count + pads + 1 then .ok []
      else bytesFrom count bits (if 2 ≤ count then pads + 1 else pads) t
    else
      match digit64? c with
      | none => bytesFrom count bits pads t
      | some d =>
        let bits := bits * 64 + d
        match count with
        | 0 => bytesFrom 1 bits 0 t
        | 1 => do return .ofNat (bits / 16) :: (← bytesFrom 2 (bits % 16) 0 t)
        | 2 => do return .ofNat (bits / 4) :: (← bytesFrom 3 (bits % 4) 0 t)
        | _ => do return .ofNat bits :: (← bytesFrom 0 0 0 t)

/-- Bytes that are written to the base sixty-four. -/
def bytesOf (s : CodePoints) : Except Fault Bytes :=
  let t := s.shown
  if t.all (·.toNat < 128) then bytesFrom 0 0 0 t else .error .unconstructible

end TablePackage.Yaml
