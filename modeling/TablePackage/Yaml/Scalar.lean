import TablePackage.Yaml.Cursor

/-!
# Scalars in their written forms

Quoted scalars on one line or folded over several, literal and folded blocks, and plain
scalars. Each reader starts at the first character of the scalar and gives its text and the
cursor behind it.
-/

namespace TablePackage.Yaml.Cursor

/-! ## Quoted scalars -/

/-- The blanks before a line, and its line breaks: those of empty lines are kept. -/
def quotedBreaks : Nat → Cursor → Except Fault (Text × Cursor)
  | 0, c => .ok ([], c)
  | fuel + 1, c =>
    if c.atMark then .error .unterminated
    else
      match (c.skip fun d => d = ' ' || d = '\t').takeBreak with
      | ([], c) => .ok ([], c)
      | (b, c) => do
        let (t, c) ← quotedBreaks fuel c
        return (b ++ t, c)

/-- Line breaks as a scalar keeps them: a single line feed joins two lines by a space. -/
def foldBreaks (first others : Text) : Text :=
  if first ≠ ['\n'] then first ++ others else if others = [] then [' '] else others

/-- The blanks at the cursor, or the line breaks that they lead to. -/
def quotedBlanks (c : Cursor) : Except Fault (Text × Cursor) := do
  let (blanks, c) := c.take fun d => d = ' ' || d = '\t'
  match c.peek with
  | none => throw (c.blame .unterminated)
  | some d =>
    if isBreak d then
      let (first, c) := c.takeBreak
      let (others, c) ← c.quotedBreaks (c.rest.length + 1)
      return (foldBreaks first others, c)
    else return (blanks, c)

/-- The characters that stand for themselves or for another one after a backslash. -/
def escapes : List (Char × Char) :=
  [('0', '\x00'), ('a', '\x07'), ('b', '\x08'), ('t', '\t'), ('\t', '\t'), ('n', '\n'),
    ('v', '\x0b'), ('f', '\x0c'), ('r', '\r'), ('e', '\x1b'), (' ', ' '), ('"', '"'),
    ('\\', '\\'), ('/', '/'), ('N', '\x85'), ('_', '\xa0'), ('L', '\u2028'), ('P', '\u2029')]

/-- What an escape stands for; the cursor is behind its backslash. -/
def escape (c : Cursor) : Except Fault (CodePoints × Cursor) := do
  match c.peek with
  | none => throw (c.blame .malformed)
  | some d =>
    match escapes.lookup d with
    | some e => return ([.char e], c.next)
    | none =>
      if isBreak d then
        let c := c.takeBreak.2
        let (t, c) ← c.quotedBreaks (c.rest.length + 1)
        return (t, c)
      else
        let width := if d = 'x' then 2 else if d = 'u' then 4 else if d = 'U' then 8 else 0
        if width = 0 then throw .malformed
        let (n, c) ← c.next.takeHex width
        match CodePoint.ofNat? n with
        | some p => return ([p], c)
        | none => throw (.scalar (.noCharacter n))

/-- The rest of a scalar between double quotes. -/
def doubleQuoted : Nat → Cursor → Except Fault (CodePoints × Cursor)
  | 0, _ => .error .unterminated
  | fuel + 1, c =>
    match c.peek with
    | some '"' => .ok ([], c.next)
    | some '\\' => do
      let (t, c) ← c.next.escape
      let (t', c) ← doubleQuoted fuel c
      return (t ++ t', c)
    | d => do
      let (t, c) ←
        if endsWord d then c.quotedBlanks
        else .ok (c.take fun d => !endsWord (some d) && d ≠ '"' && d ≠ '\\')
      let (t', c) ← doubleQuoted fuel c
      return ((t : CodePoints) ++ t', c)

/-- The rest of a scalar between single quotes, in which a quote is written twice. -/
def singleQuoted : Nat → Cursor → Except Fault (Text × Cursor)
  | 0, _ => .error .unterminated
  | fuel + 1, c =>
    match c.rest with
    | '\'' :: '\'' :: _ => do
      let (t, c) ← singleQuoted fuel (c.advance 2)
      return ('\'' :: t, c)
    | '\'' :: _ => .ok ([], c.next)
    | _ => do
      let (t, c) ←
        if endsWord c.peek then c.quotedBlanks
        else .ok (c.take fun d => !endsWord (some d) && d ≠ '\'')
      let (t', c) ← singleQuoted fuel c
      return (t ++ t', c)

/-- A quoted scalar. -/
def quoted (c : Cursor) : Except Fault (CodePoints × Cursor) := do
  let fuel := c.rest.length + 1
  if c.peek = some '"' then doubleQuoted fuel c.next
  else
    let (t, c) ← singleQuoted fuel c.next
    return (t, c)

/-! ## Block scalars -/

/-- What to do with the line breaks at the end of a block: drop all, keep one, keep all. -/
inductive Chomping
  | strip
  | clip
  | keep
  deriving DecidableEq

/-- The header of a block: what to do with its end, and how far it is indented, if the header
    says so. -/
def blockHeader (c : Cursor) : Except Fault (Chomping × Option Nat × Cursor) := do
  let chomping? (c : Cursor) : Option Chomping × Cursor :=
    match c.peek with
    | some '+' => (some .keep, c.next)
    | some '-' => (some .strip, c.next)
    | _ => (none, c)
  let indent? (c : Cursor) : Except Fault (Option Nat × Cursor) :=
    match c.peek with
    | some d =>
      if d = '0' then .error .malformed
      else if d.isDigit then .ok (some (d.toNat - '0'.toNat), c.next) else .ok (none, c)
    | none => .ok (none, c)
  let (first, c) := chomping? c
  let (indent, c) ← indent? c
  let (chomping, c) :=
    match first, indent with
    -- The two marks may stand in any order.
    | none, some _ => chomping? c
    | chomping, _ => (chomping, c)
  if endsItem c.peek then return (chomping.getD .clip, indent, c) else throw .unexpectedCharacter

/-- The empty lines at the start of a block, and the greatest indentation in them. -/
def blockIndent : Nat → Nat → Cursor → Text × Nat × Cursor
  | 0, deepest, c => ([], deepest, c)
  | fuel + 1, deepest, c =>
    if c.peek = some ' ' then
      let c := c.next
      blockIndent fuel (max deepest c.column) c
    else
      match c.takeBreak with
      | ([], c) => ([], deepest, c)
      | (b, c) =>
        let (t, deepest, c) := blockIndent fuel deepest c
        (b ++ t, deepest, c)

/-- The cursor behind the spaces up to a column. -/
def skipIndent (indent : Nat) (c : Cursor) : Cursor :=
  c.advance ((c.rest.take (indent - c.column)).takeWhile (· = ' ')).length

/-- The empty lines in a block that is indented so far. -/
def blockBreaks (indent : Nat) : Nat → Cursor → Text × Cursor
  | 0, c => ([], c)
  | fuel + 1, c =>
    let c := c.skipIndent indent
    match c.takeBreak with
    | ([], c) => ([], c)
    | (b, c) =>
      let (t, c) := blockBreaks indent fuel c
      (b ++ t, c)

/-- The lines of a block that is indented so far, from a line with the empty lines `breaks`
    before it. -/
def blockLines (folded : Bool) (chomping : Chomping) (indent : Nat) :
    Nat → Text → Text → Cursor → Text × Cursor
  | 0, _, _, c => ([], c)
  | fuel + 1, lineBreak, breaks, c =>
    if c.column = indent && c.peek.isSome then
      let flush (c : Cursor) : Bool := !(c.peek = some ' ' || c.peek = some '\t')
      let isFlush := flush c
      let (line, c) := c.take (!isBreak ·)
      let (lineBreak, c) := c.takeBreak
      let (breaks', c) := blockBreaks indent (c.rest.length + 1) c
      let joint :=
        if c.column = indent && c.peek.isSome then
          -- Between two lines of text a line break becomes a space, unless empty lines
          -- stand for it; lines that are indented further keep theirs.
          if folded && lineBreak = ['\n'] && isFlush && flush c then
            if breaks' = [] then [' '] else []
          else lineBreak
        else []
      let (t, c) := blockLines folded chomping indent fuel lineBreak breaks' c
      (breaks ++ line ++ joint ++ t, c)
    else
      match chomping with
      | .strip => ([], c)
      | .clip => (lineBreak, c)
      | .keep => (lineBreak ++ breaks, c)

/-- A block scalar in a node that is indented so far. -/
def block (parentIndent : Int) (c : Cursor) : Except Fault (Text × Cursor) := do
  let folded := c.peek = some '>'
  let (chomping, indent?, c) ← c.next.blockHeader
  let c ← c.finishLine
  let least := (max (parentIndent + 1) 1).toNat
  let (breaks, indent, c) :=
    match indent? with
    | none =>
      let (breaks, deepest, c) := blockIndent (c.rest.length + 1) 0 c
      (breaks, max least deepest, c)
    | some more =>
      let indent := least + more - 1
      let (breaks, c) := blockBreaks indent (c.rest.length + 1) c
      (breaks, indent, c)
  return blockLines folded chomping indent (c.rest.length + 1) [] breaks c

/-! ## Plain scalars -/

/-- The blanks or the folded line breaks after a part of a plain scalar; nothing if a document
    mark follows. Also whether there was a line break. -/
def plainBlanks (c : Cursor) : Option Text × Bool × Cursor :=
  let (blanks, c) := c.take (· = ' ')
  match c.takeBreak with
  | ([], c) => (some blanks, false, c)
  | (first, c) =>
    if c.atMark then (none, true, c)
    else
      let rec breaks : Nat → Cursor → Option Text × Cursor
        | 0, c => (some [], c)
        | fuel + 1, c =>
          match (c.skip (· = ' ')).takeBreak with
          | ([], c) => (some [], c)
          | (b, c) =>
            if c.atMark then (none, c)
            else
              let (t, c) := breaks fuel c
              (t.map (b ++ ·), c)
      let (others, c) := breaks (c.rest.length + 1) c
      (others.map (foldBreaks first), true, c)

/-- Whether a plain scalar ends at the start of a text: at a blank, at a colon before a blank,
    and in a flow collection also at its punctuation. -/
def plainEnds (inFlow : Bool) : Text → Bool
  | [] => true
  | d :: rest =>
    endsWord (some d) ||
      (d = ':' && (endsWord rest.head? ||
        inFlow && rest.head?.any fun e => ",[]\x7b\x7d".toList.contains e)) ||
      (inFlow && ",?[]\x7b\x7d".toList.contains d)

/-- The part of a plain scalar up to a blank. -/
def plainPart (inFlow : Bool) : Text → Text
  | [] => []
  | d :: rest => if plainEnds inFlow (d :: rest) then [] else d :: plainPart inFlow rest

/-- The rest of a plain scalar after some blanks, and whether a line break follows it. -/
def plainFrom (inFlow : Bool) (indent : Int) :
    Nat → Text → Bool → Cursor → Text × Bool × Cursor
  | 0, _, broken, c => ([], broken, c)
  | fuel + 1, blanks, broken, c =>
    if c.peek = some '#' then ([], broken, c)
    else
      match plainPart inFlow c.rest with
      | [] => ([], broken, c)
      | d :: part =>
        let (blanks', broken, c) := (c.advance (d :: part).length).plainBlanks
        match blanks' with
        | none | some [] => (blanks ++ d :: part, broken, c)
        | some blanks' =>
          if c.peek = some '#' || !inFlow && c.column < indent then
            (blanks ++ d :: part, broken, c)
          else
            let (t, broken, c) := plainFrom inFlow indent fuel blanks' broken c
            (blanks ++ d :: part ++ t, broken, c)

/-- A plain scalar in a node that is indented so far, and whether a line break follows it. -/
def plain (inFlow : Bool) (parentIndent : Int) (c : Cursor) : Text × Bool × Cursor :=
  plainFrom inFlow (parentIndent + 1) (c.rest.length + 1) [] false c

end TablePackage.Yaml.Cursor
