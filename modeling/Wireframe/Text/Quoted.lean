import Wireframe.Text.Blank
import Wireframe.Text.HiddenTable

/-!
# Texts shown in messages

* **Shown characters** (`showChar`): quotes, backslashes and control characters are escaped, and a character that
  cannot be seen is spelled by its number.
* **Shown texts** (`quote`): the shown characters between quotes.
-/

namespace Wireframe.Text

def showChar (c : Char) : List Char :=
  match c with
  | '\x00' => ['\\', '0']
  | '\t' => ['\\', 't']
  | '\n' => ['\\', 'n']
  | '\r' => ['\\', 'r']
  | '"' => ['\\', '"']
  | '\\' => ['\\', '\\']
  | c => if inTable hidden c then "\\u\x7b".toList ++ Nat.toDigits 16 c.toNat ++ "\x7d".toList else [c]

/-- A text between quotes, with every character as it is shown. -/
def quote (s : String) : String := String.ofList ('"' :: s.toList.flatMap showChar ++ ['"'])

end Wireframe.Text
