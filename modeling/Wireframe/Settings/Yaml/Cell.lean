/-!
# The characters of a settings text in their places

* **Cells** (`Cell`, `cells?`): every character with its line, its column and its offset. A line break is one cell.
* **Classes** (`Cell.isBlank`, `Cell.isBreak`, `Cell.isGap`).
* **What comes next** (`gapNext`, `markerNext`).
-/

namespace Wireframe.Yaml

/-- A character with its line, its column and the number of bytes before it. -/
structure Cell where
  char : Char
  line : Nat
  column : Nat
  offset : Nat

/-- Whether a character is a separator of lines or of paragraphs: a line break that is also text. -/
def isSeparator (c : Char) : Bool := c = '\u2028' || c = '\u2029'

/-- Whether a character ends a line and is no text. -/
def isLineEnd (c : Char) : Bool := c = '\n' || c = '\r' || c = '\u0085'

namespace Cell

def isBlank (c : Cell) : Bool := c.char = ' ' || c.char = '\t'

def isBreak (c : Cell) : Bool := c.char = '\n' || isSeparator c.char

/-- What separates words. -/
def isGap (c : Cell) : Bool := c.isBlank || c.isBreak

end Cell

/-- Characters with their places from a place on; every line end is a line feed. -/
def cellsFrom (line column offset : Nat) : List Char → List Cell
  | [] => []
  | '\r' :: '\n' :: s => ⟨'\n', line, column, offset⟩ :: cellsFrom (line + 1) 0 (offset + 2) s
  | c :: s =>
    if isLineEnd c then ⟨'\n', line, column, offset⟩ :: cellsFrom (line + 1) 0 (offset + c.utf8Size) s
    else if isSeparator c then ⟨c, line, column, offset⟩ :: cellsFrom (line + 1) 0 (offset + c.utf8Size) s
    else ⟨c, line, column, offset⟩ :: cellsFrom line (column + 1) (offset + c.utf8Size) s

def isAllowed (c : Char) : Bool :=
  c = '\t' || c = '\n' || c = '\r' || (' ' ≤ c && c ≤ '~') || c = '\u0085' || ('\u00a0' ≤ c && c ≤ '\ufffd') ||
    0x10000 ≤ c.toNat

/-- The cells of a text, if all its characters may stand there. -/
def cells? (text : String) : Option (List Cell) :=
  if text.toList.all isAllowed then some (cellsFrom 0 0 0 text.toList) else none

/-- Whether a blank, a line break or the end of the text comes next. -/
def gapNext : List Cell → Bool
  | [] => true
  | c :: _ => c.isGap

/-- Whether a marker comes next: three times the same character, alone at the start of a line. -/
def markerNext (mark : Char) : List Cell → Bool
  | a :: b :: c :: s => a.column = 0 && a.char = mark && b.char = mark && c.char = mark && gapNext s
  | _ => false

def documentNext (s : List Cell) : Bool := markerNext '-' s || markerNext '.' s

end Wireframe.Yaml
