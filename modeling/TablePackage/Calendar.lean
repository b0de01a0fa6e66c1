import TablePackage.Text

/-!
# Days and moments

Days of the calendar, and moments with a time of day and perhaps with the offset of their zone.
A moment with an offset is the same as another one at the same instant.
-/

namespace TablePackage

/-- A day of the calendar. -/
structure Date where
  year : Nat
  month : Nat
  day : Nat
  deriving DecidableEq

namespace Date

/-- Whether a year has a 29th of February. -/
def isLeap (year : Nat) : Bool := year % 4 = 0 && (year % 100 ≠ 0 || year % 400 = 0)

/-- How many days a month has. -/
def daysIn (year month : Nat) : Nat :=
  if month = 2 then if isLeap year then 29 else 28
  else if month ∈ [4, 6, 9, 11] then 30 else 31

/-- How many days come before the first day of a year, counted from the year one. -/
def daysBefore (year : Nat) : Nat :=
  let past := year - 1
  365 * past + past / 4 - past / 100 + past / 400

/-- The number of a day, counted from the first day of the year one. -/
def ordinal (d : Date) : Nat :=
  let past := (List.range (d.month - 1)).foldl (fun days m => days + daysIn d.year (m + 1)) 0
  daysBefore d.year + past + d.day

/-- The form of a day in messages. -/
def display (d : Date) : Text :=
  "datetime.date(" ++ Text.join ", " ([d.year, d.month, d.day].map Text.ofNat) ++ ")"

end Date

/-- The form of an offset of so many seconds in messages: whole days, which may be negative, and
    the rest. -/
def displayOffset (seconds : Int) : Text :=
  let days := seconds / 86400
  let rest := seconds % 86400
  let parts : List Text :=
    (if days = 0 then [] else ["days=" ++ Text.ofInt days]) ++
      (if rest = 0 then [] else ["seconds=" ++ Text.ofInt rest])
  "datetime.timedelta(" ++ (if parts = [] then "0" else Text.join ", " parts : Text) ++ ")"

/-- A time of a day. With a zone, `zone` is the zone's offset in minutes. -/
structure Moment where
  date : Date
  hour : Nat
  minute : Nat
  second : Nat
  microsecond : Nat
  zone : Option Int
  deriving DecidableEq

namespace Moment

/-- The microseconds up to a moment, by the clock of its zone. -/
def clock (m : Moment) : Int :=
  (((m.date.ordinal * 24 + m.hour) * 60 + m.minute) * 60 + m.second) * 1000000 + m.microsecond

/-- Whether two moments are the same. Without a zone it is not known which instant a moment
    is, so it is only the same as another one without a zone. -/
def same (m n : Moment) : Bool :=
  match m.zone, n.zone with
  | some a, some b => m.clock - a * 60000000 = n.clock - b * 60000000
  | none, none => m.clock = n.clock
  | _, _ => false

/-- The form of a moment in messages: parts that are zero are left out at the end of the
    time. -/
def display (m : Moment) : Text :=
  let finer : List Nat :=
    if m.microsecond ≠ 0 then [m.second, m.microsecond]
    else if m.second ≠ 0 then [m.second] else []
  let numbers := [m.date.year, m.date.month, m.date.day, m.hour, m.minute] ++ finer
  let zone : List Text :=
    match m.zone with
    | none => []
    | some 0 => ["tzinfo=datetime.timezone.utc"]
    | some minutes => ["tzinfo=datetime.timezone(" ++ displayOffset (minutes * 60) ++ ")"]
  "datetime.datetime(" ++ Text.join ", " (numbers.map Text.ofNat ++ zone) ++ ")"

end Moment

end TablePackage
