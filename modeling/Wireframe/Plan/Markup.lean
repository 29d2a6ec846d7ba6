import Wireframe.Plan.Basic
import Wireframe.Text.Lines

/-!
# Markup

* **Escapes** (`Markup.escape`): four characters of a text are written as entities.
* **Elements** (`Component.markup`): one element for each component; only containers show what they hold.
* **Modules** (`Plan.asModule`): the markup as the body of a component module.
-/

namespace Wireframe

namespace Markup

/-- How a character stands in an attribute. -/
def escapeChar (c : Char) : List Char :=
  match c with
  | '&' => "&amp;".toList
  | '"' => "&quot;".toList
  | '<' => "&lt;".toList
  | '>' => "&gt;".toList
  | c => [c]

def escape (s : List Char) : List Char := s.flatMap escapeChar

def attr (key value : String) : List Char := ' ' :: key.toList ++ ['=', '"'] ++ escape value.toList ++ ['"']

/-- The attributes of a component; a text that is empty has none. -/
def attributes (p : Props) : List Char :=
  (p.entries.filter fun m => !m.2.isEmpty).flatMap fun m => attr m.1 m.2

/-- An element without content. -/
def leaf (kind : Kind) (props : Props) : List Char := '<' :: kind.name.toList ++ attributes props ++ [' ', '/', '>']

/-- An element with content, on lines of its own. -/
def element (kind : Kind) (props : Props) (content : List Char) : List Char :=
  '<' :: kind.name.toList ++ attributes props ++ ['>', '\n'] ++ content ++
    ['\n', '<', '/'] ++ kind.name.toList ++ ['>']

end Markup

namespace Component

mutual

def markup : Component → List Char
  | ⟨k, p, cs⟩ =>
    if k.isContainer = false ∨ cs.isEmpty = true then Markup.leaf k p else Markup.element k p (markupAll cs)

/-- The elements of components, each on lines of its own. -/
def markupAll : List Component → List Char
  | [] => []
  | [c] => markup c
  | c :: d :: r => markup c ++ '\n' :: markupAll (d :: r)

end

end Component

namespace Plan

def markup (p : Plan) : String := String.ofList (Component.markupAll p.components)

def moduleHead : String :=
  "import React from \"react\";\n" ++
  "import \x7b Card, Input, Button, Modal \x7d from \"./components\";\n\n" ++
  "export default function GeneratedUI() \x7b\n" ++
  "  return (\n" ++
  "    <div className=\"generated-ui\">\n"

def moduleFoot : String :=
  "    </div>\n" ++
  "  );\n" ++
  "\x7d\n"

/-- What stands before each line of the markup in a module. -/
def moduleIndent : List Char := List.replicate 6 ' '

/-- The lines of the markup, indented, and a line feed after them if there are any. -/
def moduleBody (p : Plan) : List Char :=
  let body := Text.joinWith ['\n'] ((Text.lines (Component.markupAll p.components)).map (moduleIndent ++ ·))
  if body.isEmpty then [] else body ++ ['\n']

/-- A component module that shows a plan. -/
def asModule (p : Plan) : String := moduleHead ++ String.ofList p.moduleBody ++ moduleFoot

end Plan

end Wireframe
