import TablePackage.Text.Quoted

/-!
# UTF-8

Texts as bytes. `decode` reads characters as long as it can: it says which text it has read,
and which fault stopped it before the end, if any. A fault is a byte that starts no character,
a byte that cannot continue the character before it, or an end in the middle of a character.
-/

namespace TablePackage

/-- A sequence of bytes. -/
abbrev Bytes := List UInt8

namespace Utf8

/-- Why bytes are no text. -/
inductive Cause
  | startByte
  | continuationByte
  | endOfData
  deriving DecidableEq

/-- A fault: the bytes that are no character, and how many bytes come before them. -/
structure Fault where
  cause : Cause
  position : Nat
  bytes : Bytes
  deriving DecidableEq

/-! ## Writing -/

/-- The bytes of one character. -/
def encodeChar (c : Char) : Bytes :=
  let n := c.toNat
  if n < 0x80 then [.ofNat n]
  else if n < 0x800 then [.ofNat (0xC0 + n / 64), .ofNat (0x80 + n % 64)]
  else if n < 0x10000 then
    [.ofNat (0xE0 + n / 4096), .ofNat (0x80 + n / 64 % 64), .ofNat (0x80 + n % 64)]
  else
    [.ofNat (0xF0 + n / 262144), .ofNat (0x80 + n / 4096 % 64), .ofNat (0x80 + n / 64 % 64),
      .ofNat (0x80 + n % 64)]

/-- The bytes of a text. -/
def encode (t : Text) : Bytes := t.flatMap encodeChar

/-! ## Reading -/

/-- What a byte that starts a character of several bytes announces: how many bytes follow it,
    and the least and the greatest value of the first of them. -/
def lead? (b : Nat) : Option (Nat × Nat × Nat) :=
  if b < 0xC2 then none
  else if b < 0xE0 then some (1, 0x80, 0xBF)
  else if b < 0xF0 then
    some (2, if b = 0xE0 then 0xA0 else 0x80, if b = 0xED then 0x9F else 0xBF)
  else if b < 0xF5 then
    some (3, if b = 0xF0 then 0x90 else 0x80, if b = 0xF4 then 0x8F else 0xBF)
  else none

/-- Whether a byte may stand after the first two of a character. -/
def isTail (b : UInt8) : Bool := 0x80 ≤ b.toNat && b.toNat ≤ 0xBF

/-- The text before the first fault, and that fault, in bytes that stand `position` bytes
    after the start. -/
def decodeFrom (position : Nat) : Bytes → Text × Option Fault
  | [] => ([], none)
  | a :: t =>
    let stop (cause : Cause) (bytes : Bytes) : Text × Option Fault :=
      ([], some ⟨cause, position, bytes⟩)
    let put (n : Nat) (later : Text × Option Fault) : Text × Option Fault :=
      (Char.ofNat n :: later.1, later.2)
    if a.toNat < 0x80 then put a.toNat (decodeFrom (position + 1) t)
    else
      match lead? a.toNat with
      | none => stop .startByte [a]
      | some (more, least, greatest) =>
        match t with
        | [] => stop .endOfData [a]
        | b :: t =>
          -- The byte that does not fit is read again, as the start of a character.
          if b.toNat < least ∨ greatest < b.toNat then stop .continuationByte [a]
          else if more = 1 then
            put (a.toNat % 32 * 64 + b.toNat % 64) (decodeFrom (position + 2) t)
          else
            match t with
            | [] => stop .endOfData [a, b]
            | c :: t =>
              if !isTail c then stop .continuationByte [a, b]
              else if more = 2 then
                put (a.toNat % 16 * 4096 + b.toNat % 64 * 64 + c.toNat % 64)
                  (decodeFrom (position + 3) t)
              else
                match t with
                | [] => stop .endOfData [a, b, c]
                | d :: t =>
                  if !isTail d then stop .continuationByte [a, b, c]
                  else
                    put (a.toNat % 8 * 262144 + b.toNat % 64 * 4096 + c.toNat % 64 * 64
                      + d.toNat % 64) (decodeFrom (position + 4) t)

/-- The text of the bytes. -/
def decode (bytes : Bytes) : Except Fault Text :=
  match decodeFrom 0 bytes with
  | (t, none) => .ok t
  | (_, some fault) => .error fault

/-! ## Messages -/

/-- The wording of a cause. -/
def Cause.message : Cause → Text
  | .startByte => "invalid start byte"
  | .continuationByte => "invalid continuation byte"
  | .endOfData => "unexpected end of data"

/-- A fault's message tells its place, and its byte if it is a single one. -/
def Fault.message (f : Fault) : Text :=
  let place : Text :=
    match f.bytes with
    | [b] => "byte 0x" ++ Quoted.hex 2 b.toNat ++ " in position " ++ Text.ofNat f.position
    | bytes =>
      "bytes in position " ++ Text.ofNat f.position ++ "-" ++
        Text.ofNat (f.position + bytes.length - 1)
  "'utf-8' codec can't decode " ++ place ++ ": " ++ f.cause.message

end Utf8

end TablePackage
