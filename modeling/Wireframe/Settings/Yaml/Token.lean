import Wireframe.Settings.Yaml.Scalar

/-!
# Tokens

Where blocks begin and end follows from columns, and that something is a key shows only at its colon. So while a text
is read, its layout is kept: the columns of the open blocks, and the places where a key may have begun.

* **Tokens** (`Token`).
* **Layouts** (`Layout`), and how each indicator changes them.
* **Texts** (`Token.ofCells?`): the tokens of a text.
-/

namespace Wireframe.Yaml

/-- A token. Blocks have a token at their start and one at their end. -/
inductive Token where
  | documentStart
  | documentEnd
  | blockList
  | blockMap
  | blockEnd
  | openList
  | closeList
  | openMap
  | closeMap
  | comma
  | item
  | key
  | value
  | scalar (quoted : Bool) (text : List Char)
deriving DecidableEq

/-- A place where a key may have begun. -/
structure KeySpot where
  /-- The number of tokens before it. -/
  before : Nat
  cell : Cell
  /-- Whether only a key may stand there. -/
  required : Bool

/-- Whether a place is too far back for a key that ends at a cell: a key is on one line and not too long. -/
def KeySpot.isPast (k : KeySpot) (c : Cell) : Bool := k.cell.line < c.line || k.cell.offset + 1024 < c.offset

/-- The state of reading. -/
structure Layout where
  /-- The tokens read, the last one first. -/
  tokens : List Token := []
  /-- The columns of the open blocks, the innermost first. -/
  blocks : List Nat := []
  /-- Where a key may have begun. -/
  spot : Option KeySpot := none
  /-- Where a key may have begun outside each open bracket, the innermost first. -/
  outer : List (Option KeySpot) := []
  /-- Whether a key may begin here. -/
  keyAllowed : Bool := true

namespace Layout

def inFlow (l : Layout) : Bool := !l.outer.isEmpty

/-- The least column of what belongs to the innermost block. -/
def min (l : Layout) : Nat :=
  match l.blocks with
  | [] => 0
  | column :: _ => column + 1

def emit (t : Token) (l : Layout) : Layout := { l with tokens := t :: l.tokens }

def allowKey (allowed : Bool) (l : Layout) : Layout := { l with keyAllowed := allowed }

/-! ## Blocks -/

/-- Closes open blocks, from the innermost one on, as long as their columns satisfy a condition. -/
def closeBlocks (p : Nat → Bool) (l : Layout) : Layout :=
  if l.inFlow then l
  else { l with
    tokens := List.replicate (l.blocks.takeWhile p).length .blockEnd ++ l.tokens
    blocks := l.blocks.dropWhile p }

/-- Opens a block at a column if that is to the right of the open blocks. -/
def openBlock (start : Token) (column : Nat) (l : Layout) : Layout :=
  if l.inFlow || column < l.min then l else { l with tokens := start :: l.tokens, blocks := column :: l.blocks }

/-! ## Keys -/

/-- No key has begun; where one is required, this is a fault. -/
def dropSpot (l : Layout) : Option Layout :=
  if l.spot.any (·.required) then none else some { l with spot := none }

/-- A key may begin at a cell. At the column of the innermost block, nothing else may. -/
def markSpot (c : Cell) (l : Layout) : Option Layout :=
  if l.keyAllowed then do
    let l ← l.dropSpot
    return { l with spot := some ⟨l.tokens.length, c, !l.inFlow && l.blocks.head? == some c.column⟩ }
  else some l

/-- No key that ends at a cell has begun at a place too far back; where one is required, this is a fault. -/
def dropPast (c : Cell) (l : Layout) : Option Layout :=
  if (l.spot :: l.outer).any fun k => k.any fun k => k.isPast c && k.required then none
  else
    let keep (k : Option KeySpot) := k.filter fun k => !k.isPast c
    some { l with spot := keep l.spot, outer := l.outer.map keep }

/-- What began at a place is a key: its token goes there, after that of a block if one begins with it. -/
def insertKey (k : KeySpot) (l : Layout) : Layout :=
  let n := l.tokens.length - k.before
  let opened := openBlock .blockMap k.cell.column { l with tokens := l.tokens.drop n }
  { opened with tokens := l.tokens.take n ++ .key :: opened.tokens, spot := none }

/-! ## Indicators -/

/-- An indicator that begins an entry of a block. -/
def entry (start token : Token) (c : Cell) (l : Layout) : Option Layout :=
  if l.inFlow || l.keyAllowed then ((l.openBlock start c.column).dropSpot).map (emit token) else none

/-- The colon between a key and its value. -/
def colon (c : Cell) (l : Layout) : Option Layout :=
  match l.spot with
  | some k => some (((l.insertKey k).allowKey false).emit .value)
  | none =>
    if l.inFlow || l.keyAllowed then
      some (((l.openBlock .blockMap c.column).allowKey !l.inFlow).emit .value)
    else none

def openBracket (token : Token) (c : Cell) (l : Layout) : Option Layout := do
  let l ← l.markSpot c
  return { l.emit token with spot := none, outer := l.spot :: l.outer, keyAllowed := true }

def closeBracket (token : Token) (l : Layout) : Option Layout := do
  let l ← l.dropSpot
  let l := (l.allowKey false).emit token
  match l.outer with
  | [] => return l
  | k :: outer => return { l with spot := k, outer := outer }

def marker (token : Token) (l : Layout) : Option Layout := do
  let l ← (l.closeBlocks fun _ => true).dropSpot
  return (l.allowKey false).emit token

def quoted (c : Cell) (scalar : Option (List Char × List Cell)) (l : Layout) : Option (Layout × List Cell) := do
  let l ← l.markSpot c
  let (text, r) ← scalar
  return ((l.allowKey false).emit (.scalar true text), r)

/-- The layout after the token that starts at a cell, and the rest. -/
def read (c : Cell) (s : List Cell) (l : Layout) : Option (Layout × List Cell) := do
  let l := (← l.dropPast c).closeBlocks (c.column < ·)
  if markerNext '-' (c :: s) then return (← l.marker .documentStart, s.drop 2)
  else if markerNext '.' (c :: s) then return (← l.marker .documentEnd, s.drop 2)
  else if c.char = '[' then return (← l.openBracket .openList c, s)
  else if c.char = '{' then return (← l.openBracket .openMap c, s)
  else if c.char = ']' then return (← l.closeBracket .closeList, s)
  else if c.char = '}' then return (← l.closeBracket .closeMap, s)
  else if c.char = ',' then return (((← l.dropSpot).allowKey true).emit .comma, s)
  else if c.char = '-' && gapNext s then return ((← l.entry .blockList .item c).allowKey true, s)
  else if c.char = '?' && (l.inFlow || gapNext s) then return ((← l.entry .blockMap .key c).allowKey !l.inFlow, s)
  else if c.char = ':' && (l.inFlow || gapNext s) then return (← l.colon c, s)
  else if c.char = '\'' then l.quoted c (singleQuoted (s.length + 1) s)
  else if c.char = '"' then l.quoted c (doubleQuoted (s.length + 1) s)
  else if (c.char = '|' || c.char = '>') && !l.inFlow then
    let l ← l.dropSpot
    let (text, r) ← blockScalar (c.char = '|') l.min s
    return ((l.allowKey true).emit (.scalar true text), r)
  else if startsPlain l.inFlow (c :: s) then
    let l ← l.markSpot c
    let p ← plain l.inFlow l.min (c :: s)
    return ((l.allowKey p.endsLine).emit (.scalar false p.text), p.rest)
  else none

end Layout

/-! ## Texts -/

mutual

/-- The rest from the next token on, and whether a key may begin there. Outside brackets, tabs are no blanks where a
key may begin, and a key may begin on every line. -/
def skipGap (inFlow keyAllowed : Bool) : List Cell → Bool × List Cell
  | [] => (keyAllowed, [])
  | c :: s =>
    if c.isBreak then skipGap inFlow (keyAllowed || !inFlow) s
    else if c.char = ' ' || (c.char = '\t' && (inFlow || !keyAllowed)) || (c.char = '\ufeff' && c.column = 0) then
      skipGap inFlow keyAllowed s
    else if c.char = '#' then skipComment inFlow keyAllowed s
    else (keyAllowed, c :: s)

/-- The same within a comment, which ends with its line. -/
def skipComment (inFlow keyAllowed : Bool) : List Cell → Bool × List Cell
  | [] => (keyAllowed, [])
  | c :: s =>
    if c.isBreak then skipGap inFlow (keyAllowed || !inFlow) s else skipComment inFlow keyAllowed s

end

namespace Token

/-- The tokens of the rest of a text. -/
def ofCellsFrom (l : Layout) : Nat → List Cell → Option (List Token)
  | 0, _ => none
  | fuel + 1, s =>
    match skipGap l.inFlow l.keyAllowed s with
    | (_, []) => ((l.closeBlocks fun _ => true).dropSpot).map fun l => l.tokens.reverse
    | (allowed, c :: r) => do
      let (l, r) ← (l.allowKey allowed).read c r
      ofCellsFrom l fuel r

/-- The tokens of a text. Anchors, tags and directives have none. -/
def ofCells? (s : List Cell) : Option (List Token) := ofCellsFrom {} (s.length + 1) s

end Token

end Wireframe.Yaml
