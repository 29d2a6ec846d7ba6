/-!
# What can be wrong with a text

* **Marks** (`Mark`): a place in a text, kept as what is still to be read there.
* **Positions** (`Mark.position`): line and column of a mark, counted in bytes.
* **Faults** (`SyntaxError`, `Fault`): why a text is no document, and where that shows.
-/

namespace Wireframe.Json

/-- A place in a text: what is still to be read, and how many of its bytes count as read all the same. -/
structure Mark where
  rest : List Char
  extra : Nat

/-- The place in front of the rest of a text. -/
def Mark.here (rest : List Char) : Mark := ⟨rest, 0⟩

/-- The place after the first byte of the rest of a text. -/
def Mark.peek (rest : List Char) : Mark := ⟨rest, 1⟩

/-- A line, from 1, and a column: the number of bytes before the place on that line. -/
structure Position where
  line : Nat
  column : Nat

def byteCount (s : List Char) : Nat := s.foldr (fun c n => c.utf8Size + n) 0

def bytes (s : List Char) : List UInt8 := s.flatMap String.utf8EncodeChar

def Mark.position (text : List Char) (m : Mark) : Position :=
  let before := (bytes text).take (byteCount text - byteCount m.rest + m.extra)
  ⟨1 + before.count 10, (before.reverse.takeWhile (· != 10)).length⟩

/-- Why a text is no document. -/
inductive SyntaxError where
  | endInValue
  | endInString
  | endInList
  | endInObject
  | expectedValue
  | expectedWord
  | expectedColon
  | expectedListEnd
  | expectedObjectEnd
  | keyNotString
  | trailingComma
  | trailingCharacters
  | invalidNumber
  | numberOutOfRange
  | invalidEscape
  | controlCharacter
  | loneSurrogate
  | unfinishedSurrogate
  | tooDeep
deriving DecidableEq, Repr

def SyntaxError.message : SyntaxError → String
  | endInValue => "EOF while parsing a value"
  | endInString => "EOF while parsing a string"
  | endInList => "EOF while parsing a list"
  | endInObject => "EOF while parsing an object"
  | expectedValue => "expected value"
  | expectedWord => "expected ident"
  | expectedColon => "expected `:`"
  | expectedListEnd => "expected `,` or `]`"
  | expectedObjectEnd => "expected `,` or `\x7d`"
  | keyNotString => "key must be a string"
  | trailingComma => "trailing comma"
  | trailingCharacters => "trailing characters"
  | invalidNumber => "invalid number"
  | numberOutOfRange => "number out of range"
  | invalidEscape => "invalid escape"
  | controlCharacter => "control character (\\u0000-\\u001F) found while parsing a string"
  | loneSurrogate => "lone leading surrogate in hex escape"
  | unfinishedSurrogate => "unexpected end of hex escape"
  | tooDeep => "recursion limit exceeded"

/-- A syntax error and the place where it shows. -/
structure Fault where
  cause : SyntaxError
  mark : Mark

end Wireframe.Json
