import Wireframe.Plan.Intake
import Wireframe.Plan.Markup

/-!
# Explanations

* **Lines** (`Component.outline`): one line for each component down to a depth, indented by its depth.
* **Explanations** (`Plan.explain`): the prompt, the layout and the lines; one that is too long is turned down.
* **From values** (`Plan.markupOf`, `Plan.explanationOf`): a value is accepted as a plan first.
-/

namespace Wireframe

namespace Component

/-- The line of a component at a depth. -/
def outlineLine (depth : Nat) (c : Component) : List Char :=
  List.replicate (2 * depth) ' ' ++ ['-', ' '] ++ c.kind.name.toList ++ [':', ' '] ++ (c.label?.getD "N/A").toList

/-- The lines of a component that stands at a depth and of `levels` levels below it. -/
def outline : Nat → Nat → Component → List (List Char)
  | 0, depth, c => [outlineLine depth c]
  | levels + 1, depth, c => outlineLine depth c :: c.children.flatMap (outline levels (depth + 1))

end Component

namespace Plan

def explanationLines (prompt : String) (p : Plan) (l : Limits) : List (List Char) :=
  ["User intent: \"".toList ++ prompt.toList ++ ['"'], "Layout: ".toList ++ p.layout.toList, "Components:".toList] ++
    p.components.flatMap (Component.outline l.explainDepth 0)

def explanationText (prompt : String) (p : Plan) (l : Limits) : List Char :=
  Text.joinWith ['\n'] (explanationLines prompt p l)

/-- The explanation of a plan, unless it is too long. -/
def explain (prompt : String) (p : Plan) (l : Limits) : Except Rejection String :=
  let s := explanationText prompt p l
  if l.maxExplanation < s.length then .error (.explanationTooLong s.length l.maxExplanation)
  else .ok (String.ofList s)

/-- The markup of a value that is accepted as a plan. -/
def markupOf (v : Json) (l : Limits) : Except Rejection String := do
  let p ← accept v l
  return p.markup

def explanationOf (prompt : String) (v : Json) (l : Limits) : Except Rejection String := do
  let p ← accept v l
  explain prompt p l

end Plan

end Wireframe
