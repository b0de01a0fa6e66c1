import TablePackage.Text

/-!
# Binary floating point

The numbers of the 64-bit binary format, each with its mantissa and its exponent. A ratio is
rounded to the nearest of them, a tie to the one with the even mantissa, and so are sums and
products. A number is written with the fewest digits that are rounded back to it.
-/

namespace TablePackage

/-- A number of the format: `mantissa * 2 ^ exponent` with a sign, an infinity, or none. The
    mantissa is below `2 ^ 53`, and at least `2 ^ 52` unless the exponent is the least one. What
    is no number has a payload, by which several of them are told apart. -/
inductive Binary64
  | finite (negative : Bool) (mantissa : Nat) (exponent : Int)
  | infinite (negative : Bool)
  | nan (payload : Nat)
  deriving DecidableEq

namespace Binary64

/-- The least exponent. -/
def leastExponent : Int := -1074

/-- The greatest exponent. -/
def greatestExponent : Int := 971

/-- Zero with a sign. -/
def zero (negative : Bool) : Binary64 := .finite negative 0 leastExponent

/-- `n * 2 ^ e` over `d`, as a ratio of natural numbers. -/
def scale (n d : Nat) (e : Int) : Nat × Nat :=
  if e < 0 then (n, d * Nat.pow 2 (-e).toNat) else (n * Nat.pow 2 e.toNat, d)

/-- The natural number nearest to `n / d`, the even one of two. -/
def roundRatio (n d : Nat) : Nat :=
  let q := n / d
  let r := n % d
  if 2 * r < d ∨ 2 * r = d ∧ q % 2 = 0 then q else q + 1

/-- The number nearest to `n / d`. -/
def ofRatio (negative : Bool) (n d : Nat) : Binary64 :=
  if n = 0 ∨ d = 0 then zero negative
  else
    -- The mantissa of the guess has 53 binary digits, or one digit less.
    let guess : Int := n.log2 - d.log2 - 52
    let (a, b) := scale n d (-guess)
    let e := max leastExponent (if a < b * Nat.pow 2 52 then guess - 1 else guess)
    let (a, b) := scale n d (-e)
    let m := roundRatio a b
    -- The rounding may reach the next power of two.
    let (m, e) := if m = Nat.pow 2 53 then (Nat.pow 2 52, e + 1) else (m, e)
    if e > greatestExponent then .infinite negative else .finite negative m e

/-- A finite number as a ratio. -/
def toRatio? : Binary64 → Option (Int × Nat)
  | .finite negative m e =>
    let (n, d) := scale m 1 e
    some (if negative then -n else n, d)
  | _ => none

/-- The finite number nearest to a natural number, if there is one. -/
def ofNat? (n : Nat) : Option Binary64 :=
  match ofRatio false n 1 with
  | .infinite _ => none
  | x => some x

/-- Whether a number has a minus sign. -/
def isNegative : Binary64 → Bool
  | .finite negative .. | .infinite negative => negative
  | .nan _ => false

/-- The number with the other sign. -/
def neg : Binary64 → Binary64
  | .finite negative m e => .finite (!negative) m e
  | .infinite negative => .infinite (!negative)
  | .nan payload => .nan payload

/-- With another payload, if it is no number. -/
def withPayload (payload : Nat) : Binary64 → Binary64
  | .nan _ => .nan payload
  | x => x

/-- The sum of two numbers, rounded. -/
def add (x y : Binary64) : Binary64 :=
  match x, y with
  | .nan payload, _ | _, .nan payload => .nan payload
  | .infinite a, .infinite b => if a = b then .infinite a else .nan 0
  | .infinite a, _ | _, .infinite a => .infinite a
  | .finite a m e, .finite b n f =>
    let least := min e f
    let scaled (negative : Bool) (m : Nat) (e : Int) : Int :=
      let size : Int := m * Nat.pow 2 (e - least).toNat
      if negative then -size else size
    let sum := scaled a m e + scaled b n f
    let (p, q) := scale sum.natAbs 1 least
    -- A sum that vanishes is negative only if both zeros are.
    ofRatio (if sum = 0 then a && b else sum < 0) p q

/-- The product of two numbers, rounded. -/
def mul (x y : Binary64) : Binary64 :=
  let negative := x.isNegative != y.isNegative
  match x, y with
  | .nan payload, _ | _, .nan payload => .nan payload
  | .infinite _, .infinite _ => .infinite negative
  | .infinite _, .finite _ m _ | .finite _ m _, .infinite _ =>
    if m = 0 then .nan 0 else .infinite negative
  | .finite _ m e, .finite _ n f =>
    let (p, q) := scale (m * n) 1 (e + f)
    ofRatio negative p q

/-- The integer that a number is, if it is one. -/
def toInt? (x : Binary64) : Option Int := do
  let (n, d) ← x.toRatio?
  if n % d = 0 then some (n / d) else none

/-! ## Decimal form -/

/-- The greatest `k` with `10 ^ k ≤ n / d`, for a positive ratio. -/
def magnitude (n d : Nat) : Int :=
  if d ≤ n then ((Nat.toDigits 10 (n / d)).length : Int) - 1
  else
    match (List.range 400).find? fun j => d ≤ n * Nat.pow 10 (j + 1) with
    | some j => -(j + 1 : Int)
    | none => -400

/-- Whether `c * 10 ^ k` is rounded to the number with mantissa `m` and exponent `e`: whether
    it is between the midpoints to its neighbours, which count if `m` is even. -/
def readsBack (m : Nat) (e : Int) (c : Nat) (k : Int) : Bool :=
  let below := if m = Nat.pow 2 52 ∧ e ≠ leastExponent then (4 * m - 1) else (4 * m - 2)
  let (a, b) := scale below 1 (e - 2)
  let (p, q) := scale (4 * m + 2) 1 (e - 2)
  let (x, y) := if k < 0 then (c, Nat.pow 10 (-k).toNat) else (c * Nat.pow 10 k.toNat, 1)
  if m % 2 = 0 then a * y ≤ x * b && x * q ≤ p * y else a * y < x * b && x * q < p * y

/-- The digits, as one number, and the power of ten of the last of them, of the shortest
    decimal that is rounded to the number; of several the nearest one. -/
def shortest (m : Nat) (e : Int) : Nat × Int :=
  let (n, d) := scale m 1 e
  let top := magnitude n d
  let candidates (digits : Nat) : Option (Nat × Int) :=
    let k := top - digits + 1
    let (a, b) := if k < 0 then (n * Nat.pow 10 (-k).toNat, d) else (n, d * Nat.pow 10 k.toNat)
    let q := a / b
    -- Of the decimals with so many digits only the two next to the number can be rounded to it.
    match readsBack m e q k, readsBack m e (q + 1) k with
    | true, true => some (roundRatio a b, k)
    | true, false => some (q, k)
    | false, true => some (q + 1, k)
    | false, false => none
  ((List.range 17).findSome? fun i => candidates (i + 1)).getD (0, 0)

/-- The decimal form of positive digits with `k` the power of ten of the last of them:
    positional for magnitudes from `10 ^ -4` to below `10 ^ 16`, with an exponent otherwise. -/
def decimal (digits : Text) (k : Int) : Text :=
  let top := k + digits.length - 1
  if -4 ≤ top ∧ top < 16 then
    if 0 ≤ k then digits ++ List.replicate k.toNat '0' ++ ".0"
    else if 0 ≤ top then
      let (whole, fraction) := digits.splitAt (top + 1).toNat
      whole ++ "." ++ fraction
    else "0." ++ List.replicate (-top - 1).toNat '0' ++ digits
  else
    let exponent := Text.ofNat top.natAbs
    let mantissa : Text :=
      match digits with
      | [d] => [d]
      | digits => digits.take 1 ++ "." ++ digits.drop 1
    mantissa ++ "e" ++ (if top < 0 then "-" else "+" : Text) ++
      List.replicate (2 - exponent.length) '0' ++ exponent

/-- Digits without the zeros at their end, and the power of ten of the last one left. -/
def dropZeros (digits : Text) (k : Int) : Text × Int :=
  let kept := Text.trimBy (· = '0') digits
  (kept, k + digits.length - kept.length)

/-- The shortest decimal form of a number. -/
def toText : Binary64 → Text
  | .nan _ => "nan"
  | .infinite negative => if negative then "-inf" else "inf"
  | .finite negative m e =>
    let unsigned : Text :=
      if m = 0 then "0.0"
      else
        let (c, k) := shortest m e
        let (digits, k) := dropZeros (Text.ofNat c) k
        decimal digits k
    if negative then '-' :: unsigned else unsigned

end Binary64

end TablePackage
