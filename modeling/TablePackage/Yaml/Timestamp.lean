import TablePackage.Value
import TablePackage.Yaml.Fault

/-!
# Timestamps

The written forms of days and moments: `2001-12-14`, `2001-12-14 21:59:43.10 -5`. Outside days
and hours, numbers have two digits; a month, a day or an hour may have one. A line feed may
follow.
-/

namespace TablePackage.Yaml

/-- The numbers of a timestamp as they are written, and the time of day, if there is one. -/
structure Timestamp where
  year : Nat
  month : Nat
  day : Nat
  /-- Whether month and day have two digits each. -/
  isFull : Bool
  time : Option (Nat × Nat × Nat) := none
  fraction : Text := []
  /-- The offset of the zone in minutes. -/
  zone : Option Int := none

namespace Timestamp

/-- The number that decimal digits write. -/
def number (digits : Text) : Nat := digits.foldl (fun n d => n * 10 + (d.toNat - '0'.toNat)) 0

/-- Reads from `least` up to `most` digits. -/
def digits? (least most : Nat) (t : Text) : Option (Text × Text) :=
  let digits := (t.take most).takeWhile Char.isDigit
  if least ≤ digits.length then some (digits, t.drop digits.length) else none

/-- Reads a given character. -/
def char? (c : Char) : Text → Option Text
  | d :: t => if d = c then some t else none
  | [] => none

/-- Reads the zone at the end of a timestamp: none, `Z`, or an offset. -/
def zone? (t : Text) : Option (Option Int) :=
  match t.dropWhile fun c => c = ' ' || c = '\t' with
  | [] => if t = [] then some none else none
  | ['Z'] => some (some 0)
  | sign :: t =>
    if sign = '+' ∨ sign = '-' then do
      let (hours, t) ← digits? 1 2 t
      let minutes ←
        match t with
        | [] => some 0
        | t => do
          let (minutes, t) ← digits? 2 2 (← char? ':' t)
          if t = [] then some (number minutes) else none
      let offset : Int := number hours * 60 + minutes
      return some (if sign = '-' then -offset else offset)
    else none

/-- Reads a timestamp, which may be a day alone. -/
def ofText? (t : Text) : Option Timestamp := do
  let (year, t) ← digits? 4 4 (if t.getLast? = some '\n' then t.dropLast else t)
  let (month, t) ← digits? 1 2 (← char? '-' t)
  let (day, t) ← digits? 1 2 (← char? '-' t)
  let date : Timestamp :=
    { year := number year, month := number month, day := number day
      isFull := month.length = 2 && day.length = 2 }
  if t = [] then return date
  let blanks := t.takeWhile fun c => c = ' ' || c = '\t'
  let t ←
    if blanks ≠ [] then some (t.drop blanks.length)
    else (char? 'T' t).or (char? 't' t)
  let (hour, t) ← digits? 1 2 t
  let (minute, t) ← digits? 2 2 (← char? ':' t)
  let (second, t) ← digits? 2 2 (← char? ':' t)
  let (fraction, t) :=
    match t with
    | '.' :: t => (t.takeWhile Char.isDigit, t.dropWhile Char.isDigit)
    | t => ([], t)
  let zone ← zone? t
  return { date with
    time := some (number hour, number minute, number second), fraction, zone }

/-- Whether a plain scalar of this form is a timestamp: a day alone has to be written in full. -/
def isPlain (s : Timestamp) : Bool := s.isFull || s.time.isSome

/-- The first part of a timestamp that is out of its range. -/
def outOfRange? (s : Timestamp) : Option TimePart :=
  let zone : Option TimePart := do
    let offset ← s.zone
    if offset.natAbs < 24 * 60 then none else some (.zone offset)
  let date : Option TimePart :=
    if s.year = 0 then some .year
    else if s.month < 1 ∨ 12 < s.month then some .month
    else if s.day < 1 ∨ Date.daysIn s.year s.month < s.day then some .day
    else none
  let time : Option TimePart := do
    let (hour, minute, second) ← s.time
    if 23 < hour then some .hour
    else if 59 < minute then some .minute
    else if 59 < second then some .second
    else none
  zone.or (date.or time)

/-- The day or moment that a timestamp writes. -/
def toValue (s : Timestamp) : Except TimePart Value :=
  match s.outOfRange? with
  | some part => .error part
  | none =>
    let date : Date := ⟨s.year, s.month, s.day⟩
    match s.time with
    | none => .ok (.date date)
    | some (hour, minute, second) =>
      let micro := number ((s.fraction ++ List.replicate 6 '0').take 6)
      .ok (.moment ⟨date, hour, minute, second, micro, s.zone⟩)

end Timestamp

end TablePackage.Yaml
