import Wireframe.Settings.Yaml.Cell

/-!
# Scalars

* **Gaps** (`gapText`): blanks and line breaks within a scalar.
* **Plain scalars** (`startsPlain`, `plain`): words; further lines belong to them if they are indented.
* **Quoted scalars** (`singleQuoted`, `doubleQuoted`).
* **Block scalars** (`blockScalar`): the indented lines after a header.
-/

namespace Wireframe.Yaml

/-! ## Gaps -/

def gapBreaks (gap : List Cell) : List Char := (gap.filter Cell.isBreak).map (·.char)

/-- What a gap within a scalar stands for. Blanks on one line stay; one line end is a space, and of more breaks the
first is left out, unless it is a separator. -/
def gapText (gap : List Cell) : List Char :=
  match gapBreaks gap with
  | [] => gap.map (·.char)
  | ['\n'] => [' ']
  | '\n' :: more => more
  | breaks => breaks

/-! ## Plain scalars -/

/-- Characters with a meaning of their own in brackets. -/
def brackets : List Char := [',', '[', ']', '{', '}']

/-- Characters that no plain scalar starts with. -/
def indicators : List Char := brackets ++ ['#', '&', '*', '!', '|', '>', '\'', '"', '%', '@', '\x60']

/-- Whether a plain scalar starts here. -/
def startsPlain (inFlow : Bool) : List Cell → Bool
  | [] => false
  | c :: s =>
    if c.char = '-' then !gapNext s
    else if c.char = '?' || c.char = ':' then !inFlow && !gapNext s
    else !c.isGap && !indicators.contains c.char

/-- Whether a colon stands before a character that has a meaning in brackets; there this is no text. -/
def badColon : List Cell → Bool
  | c :: d :: _ => c.char = ':' && (d.char = '?' || brackets.contains d.char)
  | _ => false

/-- The characters of a plain scalar up to a gap or an indicator, and the rest. -/
def word (inFlow : Bool) : List Cell → Option (List Char × List Cell)
  | [] => some ([], [])
  | c :: s =>
    if c.isGap then some ([], c :: s)
    else if inFlow && badColon (c :: s) then none
    else if (c.char = ':' && gapNext s) || (inFlow && brackets.contains c.char) then some ([], c :: s)
    else (word inFlow s).map fun r => (c.char :: r.1, r.2)

/-- A plain scalar, whether its line has ended, and the rest. -/
structure Plain where
  text : List Char
  endsLine : Bool
  rest : List Cell

/-- A plain scalar that ends before a gap; its text is given in reverse. -/
def Plain.ofReversed (text : List Char) (gap rest : List Cell) : Plain := ⟨text.reverse, gap.any Cell.isBreak, rest⟩

/-- Whether a gap has a tab in the indentation of a line. -/
def badTab (min : Nat) (gap : List Cell) : Bool :=
  (gap.dropWhile fun c => !c.isBreak).any fun c => c.char = '\t' && c.column < min

/-- A plain scalar after a beginning, given in reverse, and a gap. It goes on until a comment, a marker, an indicator,
or a line that is indented by less than `min`; in brackets, the indentation is free. -/
def plainFrom (inFlow : Bool) (min : Nat) (text : List Char) (gap : List Cell) : Nat → List Cell → Option Plain
  | 0, _ => none
  | fuel + 1, s =>
    if documentNext s || s.head?.any (·.char = '#') then some (.ofReversed text gap s)
    else
      match word inFlow s with
      | none => none
      | some ([], _) => some (.ofReversed text gap s)
      | some (cs, r) =>
        let text := cs.reverseAux ((gapText gap).reverseAux text)
        let (gap, r) := r.span Cell.isGap
        if badTab min gap then none
        else if !inFlow && r.head?.any (·.column < min) then some (.ofReversed text gap r)
        else plainFrom inFlow min text gap fuel r

def plain (inFlow : Bool) (min : Nat) (s : List Cell) : Option Plain := plainFrom inFlow min [] [] (s.length + 1) s

/-! ## Quoted scalars -/

/-- The characters of a scalar in single quotes after the first one; a quote inside is written twice. -/
def singleQuoted : Nat → List Cell → Option (List Char × List Cell)
  | 0, _ => none
  | _, [] => none
  | fuel + 1, c :: s =>
    if documentNext (c :: s) then none
    else if c.char = '\'' then
      match s with
      | ⟨'\'', _, _, _⟩ :: s => (singleQuoted fuel s).map fun r => ('\'' :: r.1, r.2)
      | s => some ([], s)
    else if c.isGap then
      let (gap, t) := (c :: s).span Cell.isGap
      (singleQuoted fuel t).map fun r => (gapText gap ++ r.1, r.2)
    else (singleQuoted fuel s).map fun r => (c.char :: r.1, r.2)

/-- What a letter after a backslash stands for. -/
def escapes : List (Char × Char) := [
  ('0', '\x00'), ('a', '\x07'), ('b', '\x08'), ('t', '\t'), ('\t', '\t'), ('n', '\n'), ('v', '\x0b'), ('f', '\x0c'),
  ('r', '\r'), ('e', '\x1b'), (' ', ' '), ('"', '"'), ('/', '/'), ('\\', '\\'), ('N', '\u0085'), ('_', '\u00a0'),
  ('L', '\u2028'), ('P', '\u2029')]

/-- How many hexadecimal digits follow a letter after a backslash. -/
def hexLengths : List (Char × Nat) := [('x', 2), ('u', 4), ('U', 8)]

def hexDigit? (c : Char) : Option Nat :=
  if '0' ≤ c ∧ c ≤ '9' then some (c.toNat - 48)
  else if 'a' ≤ c ∧ c ≤ 'f' then some (c.toNat - 87)
  else if 'A' ≤ c ∧ c ≤ 'F' then some (c.toNat - 55)
  else none

/-- The number that digits of a base spell. -/
def ofBase? (base : Nat) : List Char → Option Nat
  | [] => none
  | ds => ds.foldl (fun n c => do
      let n ← n
      let d ← hexDigit? c
      if d < base then some (n * base + d) else none) (some 0)

/-- The character of a number; numbers of surrogates have none. -/
def ofCode? (n : Nat) : Option Char := if n.isValidChar then some (Char.ofNat n) else none

/-- The characters of a scalar in double quotes after the first one. Of a line break after a backslash nothing stays;
of the breaks that follow it, all do. -/
def doubleQuoted : Nat → List Cell → Option (List Char × List Cell)
  | 0, _ => none
  | _, [] => none
  | fuel + 1, c :: s =>
    if documentNext (c :: s) then none
    else if c.char = '"' then some ([], s)
    else if c.char = '\\' then
      match s with
      | [] => none
      | e :: t =>
        if e.isBreak then
          let (gap, t) := t.span Cell.isGap
          (doubleQuoted fuel t).map fun r => (gapBreaks gap ++ r.1, r.2)
        else
          match hexLengths.lookup e.char with
          | some n => do
            let d ← if n ≤ t.length then (ofBase? 16 ((t.take n).map (·.char))).bind ofCode? else none
            let r ← doubleQuoted fuel (t.drop n)
            return (d :: r.1, r.2)
          | none => do
            let d ← escapes.lookup e.char
            let r ← doubleQuoted fuel t
            return (d :: r.1, r.2)
    else if c.isGap then
      let (gap, t) := (c :: s).span Cell.isGap
      (doubleQuoted fuel t).map fun r => (gapText gap ++ r.1, r.2)
    else (doubleQuoted fuel s).map fun r => (c.char :: r.1, r.2)

/-! ## Block scalars -/

/-- What becomes of the line breaks at the end of a block scalar. -/
inductive Chomping where
  | strip
  | clip
  | keep

/-- The header of a block scalar: the line breaks at the end, and the indentation, which is found out if it is zero. -/
structure BlockHeader where
  chomping : Chomping := .clip
  indentation : Nat := 0

/-- The digit of an indentation, and the rest. -/
def indentation? : List Cell → Option (Nat × List Cell)
  | [] => none
  | c :: s => if '1' ≤ c.char && c.char ≤ '9' then some (c.char.toNat - 48, s) else none

/-- The sign of a chomping, and the rest. -/
def chomping? : List Cell → Option (Chomping × List Cell)
  | [] => none
  | c :: s => if c.char = '+' then some (.keep, s) else if c.char = '-' then some (.strip, s) else none

/-- The header of a block scalar, in either order. -/
def blockHeader (s : List Cell) : BlockHeader × List Cell :=
  match chomping? s with
  | some (c, s) =>
    match indentation? s with
    | some (n, s) => (⟨c, n⟩, s)
    | none => (⟨c, 0⟩, s)
  | none =>
    match indentation? s with
    | some (n, s) =>
      match chomping? s with
      | some (c, s) => (⟨c, n⟩, s)
      | none => (⟨.clip, n⟩, s)
    | none => ({}, s)

/-- The rest after the end of a line on which nothing but a comment stands. -/
def lineEnd? (s : List Cell) : Option (List Cell) :=
  let t := s.dropWhile Cell.isBlank
  match if t.head?.any (·.char = '#') then t.dropWhile fun c => !c.isBreak else t with
  | [] => some []
  | c :: r => if c.isBreak then some r else none

/-- The line breaks before the next line with text, the deepest indentation on the way, and the rest. Lines are
indented by up to `indent`, which is not known yet if it is zero. -/
def blockGap (indent deepest : Nat) (breaks : List Char) : List Cell → Option (List Char × Nat × List Cell)
  | [] => some (breaks, deepest, [])
  | c :: s =>
    let inside := indent = 0 || c.column < indent
    if c.char = ' ' && inside then blockGap indent deepest breaks s
    else if c.char = '\t' && inside then none
    else if c.isBreak then blockGap indent (max deepest c.column) (breaks ++ [c.char]) s
    else some (breaks, max deepest c.column, c :: s)

/-- What a block scalar has gathered: its text in reverse, the break after its last line and the breaks after that one,
and whether that line starts with a blank. -/
structure BlockText where
  reversed : List Char := []
  lastBreak : List Char := []
  moreBreaks : List Char := []
  startsBlank : Bool := false

/-- The text with a further line, in reverse. In a folded scalar, a break between two lines that do not start with a
blank is a space if it is the only one, and nothing otherwise. -/
def BlockText.addLine (literal startsBlank : Bool) (line : List Char) (b : BlockText) : List Char :=
  let between :=
    if !literal && b.lastBreak == ['\n'] && !b.startsBlank && !startsBlank then
      if b.moreBreaks.isEmpty then [' '] else []
    else b.lastBreak
  (between ++ b.moreBreaks ++ line).reverseAux b.reversed

/-- The lines of a block scalar that are indented by `indent`, and the rest. -/
def blockLines (literal : Bool) (indent : Nat) (b : BlockText) : Nat → List Cell → Option (BlockText × List Cell)
  | 0, _ => none
  | _, [] => some (b, [])
  | fuel + 1, c :: s =>
    if c.column = indent then do
      let (line, r) := (c :: s).span fun c => !c.isBreak
      let (more, _, rest) ← blockGap indent 0 [] (r.drop 1)
      blockLines literal indent {
        reversed := b.addLine literal c.isBlank (line.map (·.char))
        lastBreak := (r.take 1).map (·.char)
        moreBreaks := more
        startsBlank := c.isBlank } fuel rest
    else some (b, c :: s)

/-- The characters of a block scalar after its indicator, where lines are indented by at least `min`. -/
def blockScalar (literal : Bool) (min : Nat) (s : List Cell) : Option (List Char × List Cell) := do
  let (h, r) := blockHeader s
  let r ← lineEnd? r
  let given := if h.indentation = 0 then 0 else min - 1 + h.indentation
  let (breaks, deepest, r) ← blockGap given 0 [] r
  let indent := if given = 0 then max 1 (max min deepest) else given
  let (b, r) ← blockLines literal indent { moreBreaks := breaks } (r.length + 1) r
  return (b.reversed.reverse ++ (match h.chomping with
    | .strip => []
    | .clip => b.lastBreak
    | .keep => b.lastBreak ++ b.moreBreaks), r)

end Wireframe.Yaml
