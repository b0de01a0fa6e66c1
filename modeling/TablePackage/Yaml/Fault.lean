import TablePackage.Calendar
import TablePackage.Text.Utf8

/-!
# Faults of YAML documents

The bytes of a file may be no text, the text may be no document, or it is one, but has a scalar
that is not what its kind asks for (`ScalarFault`).
-/

namespace TablePackage.Yaml

/-- A part of a timestamp. -/
inductive TimePart
  | year
  | month
  | day
  | hour
  | minute
  | second
  /-- The offset of the zone, in minutes. -/
  | zone (offset : Int)
  deriving DecidableEq

/-- Why a scalar has no value of its kind. -/
inductive ScalarFault
  /-- An escape is the number of no character. -/
  | noCharacter (number : Nat)
  | notInteger (base : Nat) (s : CodePoints)
  /-- A decimal integer has more digits than are read. -/
  | tooManyDigits (count : Nat)
  | notFloat (s : CodePoints)
  /-- A number has so many places to the base sixty that one of them is worth more than any
      floating-point number. -/
  | tooManyPlaces
  /-- A number without any digit, sign or point. -/
  | emptyNumber
  | notBool (word : CodePoints)
  | notTimestamp
  /-- A timestamp is written as a mapping. -/
  | timestampOfMapping
  | outOfRange (part : TimePart)
  /-- A scalar stands for itself. -/
  | endless
  deriving DecidableEq

/-- What is said about a part of a timestamp that is out of its range. -/
def TimePart.message : TimePart → Text
  | year => "year 0 is out of range"
  | month => "month must be in 1..12"
  | day => "day is out of range for month"
  | hour => "hour must be in 0..23"
  | minute => "minute must be in 0..59"
  | second => "second must be in 0..59"
  | zone offset =>
    "offset must be a timedelta strictly between -timedelta(hours=24) and " ++
      "timedelta(hours=24), not " ++ displayOffset (offset * 60) ++ "."

/-- The wording of a fault. -/
def ScalarFault.message : ScalarFault → Text
  | noCharacter number =>
    if number < Nat.pow 2 31 then "chr() arg not in range(0x110000)"
    else "Python int too large to convert to C int"
  | notInteger base s =>
    -- Of a long text only the start is shown.
    "invalid literal for int() with base " ++ Text.ofNat base ++ ": " ++
      (Quoted.ofCodePoints s).take 200
  | tooManyDigits count =>
    "Exceeds the limit (4300 digits) for integer string conversion: value has " ++
      Text.ofNat count ++ " digits; use sys.set_int_max_str_digits() to increase the limit"
  | notFloat s => "could not convert string to float: " ++ Quoted.ofCodePoints s
  | tooManyPlaces => "int too large to convert to float"
  | emptyNumber => "string index out of range"
  | notBool word => Quoted.ofCodePoints word
  | notTimestamp => "'NoneType' object has no attribute 'groupdict'"
  | timestampOfMapping => "expected string or bytes-like object, got 'list'"
  | endless => "maximum recursion depth exceeded"
  | outOfRange part => part.message

/-- Why a text is no YAML document, or has no value. -/
inductive Fault
  /-- Bytes that are no text. -/
  | undecodable (fault : Utf8.Fault)
  /-- A character that may not occur at all. -/
  | unprintable
  /-- A character that cannot stand where it does. -/
  | unexpectedCharacter
  /-- The end of the text, or a document mark, inside a quoted scalar. -/
  | unterminated
  /-- A key without the colon that it needs. -/
  | missingColon
  /-- An entry, a key or a value where none may start. -/
  | misplaced
  /-- A part of a collection where another one is expected. -/
  | unexpectedToken
  /-- A directive of another version, or one that is given twice. -/
  | directive
  /-- An escape, an anchor or a tag that is not well-formed or not known. -/
  | malformed
  | undefinedAlias
  | repeatedAnchor
  | severalDocuments
  /-- A key that cannot be compared with others. -/
  | unusableKey
  /-- A node of a kind that its tag does not allow, or a tag that is not known. -/
  | unconstructible
  /-- A scalar that has the wrong form for its tag. -/
  | scalar (fault : ScalarFault)
  deriving DecidableEq

/-- The wording of a fault. -/
def Fault.message : Fault → Text
  | .undecodable fault => fault.message
  | .unprintable => "special characters are not allowed"
  | .unexpectedCharacter => "found a character that cannot start any token"
  | .unterminated => "found unexpected end of stream"
  | .missingColon => "could not find expected ':'"
  | .misplaced => "mapping values are not allowed here"
  | .unexpectedToken => "did not find expected node content"
  | .directive => "found an unusable directive"
  | .malformed => "found an escape, anchor or tag that cannot be read"
  | .undefinedAlias => "found undefined alias"
  | .repeatedAnchor => "found duplicate anchor"
  | .severalDocuments => "expected a single document in the stream"
  | .unusableKey => "found unhashable key"
  | .unconstructible => "could not determine a constructor for the tag"
  | .scalar fault => fault.message

end TablePackage.Yaml
