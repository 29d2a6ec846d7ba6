/-!
# Lines and separators

* **Joining** (`joinWith`): texts with a separator between them.
* **Splitting** (`splitOn`): the parts of a text between the occurrences of one character.
* **Lines** (`lines`): the parts between line feeds, each without a carriage return before its line feed; nothing
  follows a final line feed.
-/

namespace Wireframe.Text

/-- Texts with a separator between them. -/
def joinWith (sep : List Char) : List (List Char) → List Char
  | [] => []
  | [s] => s
  | s :: t :: r => s ++ sep ++ joinWith sep (t :: r)

/-- The parts of a text between the occurrences of `sep`; there is always at least one. -/
def splitOn (sep : Char) : List Char → List (List Char)
  | [] => [[]]
  | c :: s =>
    if c = sep then [] :: splitOn sep s
    else
      match splitOn sep s with
      | [] => [[c]]
      | p :: ps => (c :: p) :: ps

/-- A line without the carriage return at its end. -/
def dropReturn : List Char → List Char
  | [] => []
  | ['\r'] => []
  | c :: s => c :: dropReturn s

/-- The lines of parts that line feeds separate: the last part is a line only if it is not empty. -/
def linesOfParts : List (List Char) → List (List Char)
  | [] => []
  | [last] => if last.isEmpty then [] else [last]
  | p :: q :: r => dropReturn p :: linesOfParts (q :: r)

def lines (s : List Char) : List (List Char) := linesOfParts (splitOn '\n' s)

theorem splitOn_ne_nil (sep : Char) (s : List Char) : splitOn sep s ≠ [] := by
  cases s with
  | nil => simp [splitOn]
  | cons c s =>
    rw [splitOn]
    split
    · simp
    · split <;> simp

end Wireframe.Text
