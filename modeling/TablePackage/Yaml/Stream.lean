import TablePackage.Number.Binary64
import TablePackage.Yaml.Fault

/-!
# The text of a file

A file is read bit by bit, so that a fault in its bytes is only found by who comes there. Its
bytes are decoded in blocks, its line breaks are written as line feeds, and the characters are
handed on in pages, each of which is checked for characters that may not occur.

* `Stream.textOf`: the text up to the first page with a fault, and that fault.
-/

namespace TablePackage.Yaml

/-- A character that may occur in a document. -/
def isAllowed (c : Char) : Bool :=
  let n := c.toNat
  n = 9 || n = 10 || n = 13 || (0x20 ≤ n && n ≤ 0x7E) || n = 0x85 || (0xA0 ≤ n && n ≤ 0xD7FF) ||
    (0xE000 ≤ n && n ≤ 0xFFFD) || 0x10000 ≤ n

/-- A text with every line break written as a line feed. -/
def unifyBreaks : Text → Text
  | [] => []
  | '\r' :: '\n' :: t => '\n' :: unifyBreaks t
  | c :: t => (if c = '\r' then '\n' else c) :: unifyBreaks t

/-- A file in the middle of being read: the bytes ahead, those of a character that is not
    complete yet, whether a carriage return waits for what follows it, the characters that are
    not handed on yet, and of how many bytes the last block made how many characters. -/
structure Stream where
  bytes : Bytes
  pending : Bytes := []
  waits : Bool := false
  ready : Text := []
  lastBlock : Nat × Nat := (0, 0)

namespace Stream

/-- The least number of bytes in a block. -/
def blockSize : Nat := 8192

/-- How many characters a page has. -/
def pageSize : Nat := 4096

/-- How many bytes to read for so many characters, as the last block tells. -/
def sizeFor (s : Stream) (wanted : Nat) : Nat :=
  let (bytes, chars) := s.lastBlock
  if bytes ≤ chars ∨ chars = 0 then max blockSize wanted
  else
    -- The estimate is made with floating-point numbers.
    let estimate := (Binary64.ofRatio false bytes chars).mul (.ofRatio false wanted 1)
    match estimate.toRatio? with
    | some (n, d) => max blockSize (n / d).toNat
    | none => blockSize

/-- Reads the next block. Whatever is unfinished at its end is kept for the next one; after the
    last one there is nothing more to come. -/
def readBlock (s : Stream) (wanted : Nat) : Except Utf8.Fault Stream :=
  let size := s.sizeFor wanted
  let block := s.bytes.take size
  let isLast := block = []
  let (t, fault) := Utf8.decodeFrom 0 (s.pending ++ block)
  let finish (pending : Bytes) : Stream :=
    let t := if s.waits ∧ (t ≠ [] ∨ isLast) then '\r' :: t else t
    let waits := !isLast && (t.getLast? = some '\r' || s.waits && t = [])
    let t := unifyBreaks (if t.getLast? = some '\r' ∧ waits then t.dropLast else t)
    { bytes := s.bytes.drop size, pending, waits, ready := s.ready ++ t
      lastBlock := (block.length, t.length) }
  match fault with
  | none => .ok (finish [])
  | some f => if f.cause = .endOfData ∧ !isLast then .ok (finish f.bytes) else .error f

/-- Reads blocks until there are characters for a page, or nothing more to come. -/
def fillPage : Nat → Stream → Except Utf8.Fault Stream
  | 0, s => .ok s
  | fuel + 1, s =>
    if pageSize ≤ s.ready.length then .ok s
    else do
      let t ← s.readBlock (pageSize - s.ready.length)
      if s.bytes = [] ∧ t.ready.length = s.ready.length then return t
      fillPage fuel t

/-- All pages up to the first fault in the bytes. -/
def pagesFrom : Nat → Stream → List Text × Option Utf8.Fault
  | 0, _ => ([], none)
  | fuel + 1, s =>
    match s.fillPage (s.bytes.length + 3) with
    | .error fault => ([], some fault)
    | .ok s =>
      if s.ready = [] then ([], none)
      else
        let (pages, fault) := pagesFrom fuel { s with ready := s.ready.drop pageSize }
        (s.ready.take pageSize :: pages, fault)

/-- The parts of a text that are looked at as a whole: the first two pages, and each later one. -/
def joinPages : List Text → List Text
  | p :: q :: pages => (p ++ q) :: pages
  | pages => pages

/-- The text that can be read of a file, and the fault behind it, if there is one. -/
def textOf (bytes : Bytes) : Text × Option Fault :=
  let (pages, fault) := pagesFrom (bytes.length + 2) { bytes }
  -- A fault in the second page is found together with the first one.
  let parts := if fault.isSome && pages.length = 1 then [] else joinPages pages
  let good := parts.takeWhile fun part => part.all isAllowed
  if good.length < parts.length then (good.flatten, some .unprintable)
  else (good.flatten, fault.map .undecodable)

end Stream

end TablePackage.Yaml
