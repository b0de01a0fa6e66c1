import TablePackage.Yaml.Scalar

/-!
# Tokens

The structure of a YAML document is in its marks and in the columns of its lines. The tokens of
a document make it explicit: where the collections told by indentation start and end, and what
is a key. A key is told from other nodes only by the colon after it, so its token is put in
afterwards, in front of the node. A text that is no document still has tokens up to a place; who
reads them may find a fault of its own there.
-/

namespace TablePackage.Yaml

/-- A token of a document. -/
inductive Token
  | version (major minor : Nat)
  | tagDirective (handle address : Text)
  | otherDirective
  | documentStart
  | documentEnd
  | blockSequence
  | blockMapping
  | blockEnd
  | flowSequence
  | flowSequenceEnd
  | flowMapping
  | flowMappingEnd
  | blockEntry
  | flowEntry
  | key
  | value
  | alias (name : Text)
  | anchor (name : Text)
  | tag (handle : Option Text) (suffix : Text)
  | scalar (s : CodePoints) (isPlain : Bool)
  deriving DecidableEq

/-- A node that may turn out to be a key: the number of its first token, and its place. In a
    block, the first node of a line has to be one. -/
structure KeyCandidate where
  token : Nat
  required : Bool
  index : Nat
  line : Nat
  column : Nat

/-- How far the tokens of a document are known: the cursor, the tokens so far, the columns of
    the blocks that are open, how many flow collections are open, whether a key may start here,
    and, for each depth of flow collections, the last node that may be a key. -/
structure TokenState where
  cursor : Cursor
  tokens : Array Token := #[]
  indent : Int := -1
  outerIndents : List Int := []
  flowDepth : Nat := 0
  keyAllowed : Bool := true
  candidates : List (Nat × KeyCandidate) := []

namespace TokenState

/-- Adds a token. -/
def push (s : TokenState) (t : Token) : TokenState := { s with tokens := s.tokens.push t }

/-- Goes to a cursor. -/
def goto (s : TokenState) (c : Cursor) : TokenState := { s with cursor := c }

/-- Whether a flow collection is open. -/
def inFlow (s : TokenState) : Bool := s.flowDepth > 0

/-- Closes the blocks that are indented further than a column. -/
def closeBlocks (column : Int) (s : TokenState) : TokenState :=
  if s.inFlow then s else close s.outerIndents.length s
where
  /-- Closes at most so many blocks. -/
  close : Nat → TokenState → TokenState
    | 0, s => s
    | n + 1, s =>
      match s.outerIndents with
      | outer :: outers =>
        if s.indent > column then
          close n ({ s with indent := outer, outerIndents := outers }.push .blockEnd)
        else s
      | [] => s

/-- Opens a block at a column if that is further than the open one, and says whether it did. -/
def openBlock (column : Nat) (s : TokenState) : Bool × TokenState :=
  if s.indent < column then
    (true, { s with indent := column, outerIndents := s.indent :: s.outerIndents })
  else (false, s)

/-- Gives up the candidates that cannot be keys any more: those of an earlier line, and those
    more than 1024 characters back. -/
def dropStale (s : TokenState) : Except Fault TokenState :=
  let isStale (k : KeyCandidate) : Bool :=
    k.line ≠ s.cursor.line || s.cursor.index - k.index > 1024
  if s.candidates.any fun (_, k) => isStale k && k.required then .error .missingColon
  else .ok { s with candidates := s.candidates.filter fun (_, k) => !isStale k }

/-- Gives up the candidate of the present depth. -/
def dropCandidate (s : TokenState) : Except Fault TokenState :=
  match s.candidates.lookup s.flowDepth with
  | none => .ok s
  | some k =>
    if k.required then .error .missingColon
    else .ok { s with candidates := s.candidates.filter (·.1 ≠ s.flowDepth) }

/-- Makes the node that starts here a candidate, if a key may start here. -/
def addCandidate (s : TokenState) : Except Fault TokenState := do
  if !s.keyAllowed then return s
  let c := s.cursor
  -- At the column of an open block, what starts the line has to be a key.
  let required := !s.inFlow && s.indent = c.column
  let s ← s.dropCandidate
  return { s with
    candidates := (s.flowDepth, ⟨s.tokens.size, required, c.index, c.line, c.column⟩) ::
      s.candidates }

/-- Goes to the next token, past blanks, comments and line breaks. After a line break a key may
    start, except in a flow collection. -/
def skipToToken : Nat → TokenState → TokenState
  | 0, s => s
  | fuel + 1, s =>
    let c := (s.cursor.skip (· = ' ')).skipComment
    match c.takeBreak with
    | ([], c) => s.goto c
    | (_, c) => skipToToken fuel { s.goto c with keyAllowed := s.keyAllowed || !s.inFlow }

/-! ## The tokens one by one -/

/-- A directive: a line that starts with a percent sign. -/
def directive (s : TokenState) : Except Fault TokenState := do
  let s ← (s.closeBlocks (-1)).dropCandidate
  let (name, c) := s.cursor.next.take isName
  let c ← c.demand
  if name = [] then throw .directive
  if !endsItem c.peek then throw .directive
  let s := { s with keyAllowed := false }
  if name = "YAML".toList then
    let (major, c) ← (c.skip (· = ' ')).takeNumber
    if c.peek ≠ some '.' then throw .directive
    let (minor, c) ← c.next.takeNumber
    if !endsItem c.peek then throw .directive
    return (s.goto (← c.finishLine)).push (.version major minor)
  else if name = "TAG".toList then
    let (handle, c) ← (c.skip (· = ' ')).handle
    if (← c.demand).peek ≠ some ' ' then throw .directive
    let (address, c) ← (c.skip (· = ' ')).address
    if !endsItem c.peek then throw .directive
    return (s.goto (← c.finishLine)).push (.tagDirective handle address)
  else
    return (s.goto (← (c.skip (!isBreak ·)).finishLine)).push .otherDirective

/-- A mark of three characters between documents. -/
def mark (t : Token) (s : TokenState) : Except Fault TokenState := do
  let s ← (s.closeBlocks (-1)).dropCandidate
  return ({ s with keyAllowed := false }.goto (s.cursor.advance 3)).push t

/-- The start of a flow collection. -/
def openFlow (t : Token) (s : TokenState) : Except Fault TokenState := do
  let s ← s.addCandidate
  return ({ s with flowDepth := s.flowDepth + 1, keyAllowed := true }.goto s.cursor.next).push t

/-- The end of a flow collection. -/
def closeFlow (t : Token) (s : TokenState) : Except Fault TokenState := do
  let s ← s.dropCandidate
  if !s.inFlow then throw .unexpectedToken
  return ({ s with flowDepth := s.flowDepth - 1, keyAllowed := false }.goto s.cursor.next).push t

/-- A comma in a flow collection. -/
def flowEntry (s : TokenState) : Except Fault TokenState := do
  let s ← s.dropCandidate
  return ({ s with keyAllowed := true }.goto s.cursor.next).push .flowEntry

/-- Outside flow collections, opens a block of the given kind if this is its first entry. -/
def startBlock (t : Token) (s : TokenState) : Except Fault TokenState := do
  if s.inFlow then return s
  if !s.keyAllowed then throw .misplaced
  match s.openBlock s.cursor.column with
  | (true, s) => return s.push t
  | (false, s) => return s

/-- A dash before an entry of a sequence. -/
def blockEntry (s : TokenState) : Except Fault TokenState := do
  let s ← (← s.startBlock .blockSequence).dropCandidate
  return ({ s with keyAllowed := true }.goto s.cursor.next).push .blockEntry

/-- A question mark before a key. -/
def key (s : TokenState) : Except Fault TokenState := do
  let s ← (← s.startBlock .blockMapping).dropCandidate
  return ({ s with keyAllowed := !s.inFlow }.goto s.cursor.next).push .key

/-- A colon before a value. The candidate before it, if there is one, is its key. -/
def value (s : TokenState) : Except Fault TokenState := do
  match s.candidates.lookup s.flowDepth with
  | some k =>
    let s := { s with candidates := s.candidates.filter (·.1 ≠ s.flowDepth) }
    let (opens, s) := if s.inFlow then (false, s) else s.openBlock k.column
    -- The tokens of the key are there already; what opens it goes in front of them.
    let inserted := if opens then [Token.blockMapping, .key] else [Token.key]
    let tokens := s.tokens.toList.take k.token ++ inserted ++ s.tokens.toList.drop k.token
    let s := { s with tokens := tokens.toArray, keyAllowed := false }
    return (s.goto s.cursor.next).push .value
  | none =>
    let s ← s.startBlock .blockMapping
    return ({ s with keyAllowed := !s.inFlow }.goto s.cursor.next).push .value

/-- A name after an ampersand or an asterisk. -/
def reference (make : Text → Token) (s : TokenState) : Except Fault TokenState := do
  let s ← s.addCandidate
  let (name, c) := s.cursor.next.take isName
  let c ← c.demand
  if name = [] then throw .malformed
  let ends := endsWord c.peek || (c.peek.any fun d => "?:,]\x7d%@\x60".toList.contains d)
  if !ends then throw .malformed
  return ({ s with keyAllowed := false }.goto c).push (make name)

/-- A tag: an address in angle brackets, a single exclamation mark, or a handle and the rest of
    an address. -/
def tag (s : TokenState) : Except Fault TokenState := do
  let s ← s.addCandidate
  let c := s.cursor
  let (handle, suffix, c) ←
    if c.peekAt 1 = some '<' then do
      let (address, c) ← (c.advance 2).address
      if c.peek ≠ some '>' then throw .malformed
      pure (none, address, c.next)
    else if endsWord (c.peekAt 1) then pure (none, ['!'], c.next)
    else do
      -- A second exclamation mark in the word ends its handle.
      let (word, behind) := c.next.take fun d => !endsItem (some d)
      let (handle, c) ←
        if '!' ∈ word then c.handle
        else do
          let _ ← behind.demand
          pure (['!'], c.next)
      let (address, c) ← c.address
      pure (some handle, address, c)
  if !endsItem c.peek then throw .malformed
  return ({ s with keyAllowed := false }.goto c).push (.tag handle suffix)

/-- A literal or folded block. -/
def blockScalar (s : TokenState) : Except Fault TokenState := do
  let s ← s.dropCandidate
  let (t, c) ← s.cursor.block s.indent
  return ({ s with keyAllowed := true }.goto c).push (.scalar t false)

/-- A quoted scalar. -/
def quotedScalar (s : TokenState) : Except Fault TokenState := do
  let s ← s.addCandidate
  let (t, c) ← s.cursor.quoted
  return ({ s with keyAllowed := false }.goto c).push (.scalar t false)

/-- A plain scalar. After a line break a key may start. -/
def plainScalar (s : TokenState) : Except Fault TokenState := do
  let s ← s.addCandidate
  let (t, broken, c) := s.cursor.plain s.inFlow s.indent
  return ({ s with keyAllowed := broken }.goto c).push (.scalar t true)

/-- Whether a plain scalar may start with a character before another one. -/
def startsPlain (s : TokenState) (d : Char) (after : Option Char) : Bool :=
  !("-?:,[]\x7b\x7d#&*!|>'\"%@\x60".toList.contains d || endsWord (some d)) ||
    (!endsWord after && (d = '-' || (!s.inFlow && (d = '?' || d = ':'))))

/-- The next token, which starts with `d`, at the cursor. -/
def token (s : TokenState) (d : Char) : Except Fault TokenState :=
  let c := s.cursor
  let after := c.peekAt 1
  if d = '%' && c.column = 0 then s.directive
  else if c.column = 0 && c.atMark && d = '-' then s.mark .documentStart
  else if c.column = 0 && c.atMark then s.mark .documentEnd
  else if d = '[' then s.openFlow .flowSequence
  else if d = '\x7b' then s.openFlow .flowMapping
  else if d = ']' then s.closeFlow .flowSequenceEnd
  else if d = '\x7d' then s.closeFlow .flowMappingEnd
  else if d = ',' then s.flowEntry
  else if d = '-' && endsWord after then s.blockEntry
  else if d = '?' && (s.inFlow || endsWord after) then s.key
  else if d = ':' && (s.inFlow || endsWord after) then s.value
  else if d = '*' then s.reference .alias
  else if d = '&' then s.reference .anchor
  else if d = '!' then s.tag
  else if (d = '|' || d = '>') && !s.inFlow then s.blockScalar
  else if d = '\'' || d = '"' then s.quotedScalar
  else if s.startsPlain d after then s.plainScalar
  else .error .unexpectedCharacter

/-! ## All tokens -/

/-- The state after the next token, or after the last one at the end of the text. -/
def next (s : TokenState) : Except Fault (Bool × TokenState) := do
  let s := s.skipToToken (s.cursor.rest.length + 1)
  let _ ← s.cursor.demand
  let s := (← s.dropStale).closeBlocks s.cursor.column
  match s.cursor.peek with
  | none => return (false, ← (s.closeBlocks (-1)).dropCandidate)
  | some d =>
    let s ← s.token d
    -- A token ends where it is known what follows it.
    let _ ← s.cursor.demand
    return (true, ← s.dropStale)

/-- The tokens in front of the first node that may still turn out to be a key. -/
def settled (s : TokenState) : List Token :=
  s.tokens.toList.take (s.candidates.foldl (fun n (_, k) => min n k.token) s.tokens.size)

/-- All tokens from a state on, up to the first fault. -/
def tokensFrom : Nat → TokenState → List Token × Option Fault
  | 0, s => (s.settled, none)
  | fuel + 1, s =>
    match s.next with
    | .ok (true, s) => tokensFrom fuel s
    | .ok (false, s) => (s.tokens.toList, none)
    | .error fault => (s.settled, some fault)

end TokenState

/-- The tokens of a document, up to the first fault. The text may end before the document does,
    for the reason `stop`. A byte order mark at its start is no part of it. -/
def Token.ofText (t : Text) (stop : Option Fault := none) : List Token × Option Fault :=
  let c : Cursor := { rest := t, stop }
  let c := if c.peek = some '\ufeff' then c.next else c
  TokenState.tokensFrom (t.length + 2) { cursor := c }

end TablePackage.Yaml
