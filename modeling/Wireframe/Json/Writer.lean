import Wireframe.Json.Basic
import Wireframe.Number.Shortest

/-!
# Writing documents

* **Texts** (`escapeChar`, `quoted`): a quote, a backslash and the control characters are escaped, all else stands as
  it is.
* **Compact** (`write`): no blanks; members in the order of the value.
* **Pretty** (`pretty`): two blanks for each level, and an empty array or object on one line.
-/

namespace Wireframe.Json

/-! ## Texts and numbers -/

def hexDigit (n : Nat) : Char := Nat.digitChar n

/-- How a character stands in a text. -/
def escapeChar (c : Char) : List Char :=
  if c = '"' then ['\\', '"']
  else if c = '\\' then ['\\', '\\']
  else if c = '\x08' then ['\\', 'b']
  else if c = '\x0c' then ['\\', 'f']
  else if c = '\n' then ['\\', 'n']
  else if c = '\r' then ['\\', 'r']
  else if c = '\t' then ['\\', 't']
  else if c.toNat < 0x20 then ['\\', 'u', '0', '0', hexDigit (c.toNat / 16), hexDigit (c.toNat % 16)]
  else [c]

/-- A text between quotes. -/
def quoted (s : String) : List Char := '"' :: s.toList.flatMap escapeChar ++ ['"']

def writeInt (i : Int) : List Char :=
  if i < 0 then '-' :: Nat.toDigits 10 i.natAbs else Nat.toDigits 10 i.natAbs

def writeNumber : Number → List Char
  | .int i => writeInt i
  | .float x => x.text

/-! ## Compact -/

mutual

/-- A value without blanks. -/
def write : Json → List Char
  | .null => ['n', 'u', 'l', 'l']
  | .bool true => ['t', 'r', 'u', 'e']
  | .bool false => ['f', 'a', 'l', 's', 'e']
  | .num n => writeNumber n
  | .str s => quoted s
  | .arr xs => '[' :: writeItems xs ++ [']']
  | .obj ms => '{' :: writeMembers ms ++ ['}']

/-- Items with commas between them. -/
def writeItems : List Json → List Char
  | [] => []
  | [v] => write v
  | v :: w :: r => write v ++ ',' :: writeItems (w :: r)

def writeMembers : List (String × Json) → List Char
  | [] => []
  | [(k, v)] => quoted k ++ ':' :: write v
  | (k, v) :: m :: r => quoted k ++ ':' :: write v ++ ',' :: writeMembers (m :: r)

end

def compact (v : Json) : String := String.ofList v.write

/-! ## Pretty -/

/-- The start of a new line at a level. -/
def newLine (level : Nat) : List Char := '\n' :: List.replicate (2 * level) ' '

mutual

/-- A value whose items stand one level below `level`. -/
def prettyAt (level : Nat) : Json → List Char
  | .null => ['n', 'u', 'l', 'l']
  | .bool true => ['t', 'r', 'u', 'e']
  | .bool false => ['f', 'a', 'l', 's', 'e']
  | .num n => writeNumber n
  | .str s => quoted s
  | .arr [] => ['[', ']']
  | .arr (v :: vs) => '[' :: prettyItems (level + 1) (v :: vs) ++ newLine level ++ [']']
  | .obj [] => ['{', '}']
  | .obj (m :: ms) => '{' :: prettyMembers (level + 1) (m :: ms) ++ newLine level ++ ['}']

/-- Items, each on a line of its own at `level`. -/
def prettyItems (level : Nat) : List Json → List Char
  | [] => []
  | [v] => newLine level ++ prettyAt level v
  | v :: w :: r => newLine level ++ prettyAt level v ++ ',' :: prettyItems level (w :: r)

/-- Members, each on a line of its own at `level`. -/
def prettyMembers (level : Nat) : List (String × Json) → List Char
  | [] => []
  | [(k, v)] => newLine level ++ quoted k ++ ':' :: ' ' :: prettyAt level v
  | (k, v) :: m :: r =>
    newLine level ++ quoted k ++ ':' :: ' ' :: prettyAt level v ++ ',' :: prettyMembers level (m :: r)

end

def pretty (v : Json) : String := String.ofList (v.prettyAt 0)

end Wireframe.Json
