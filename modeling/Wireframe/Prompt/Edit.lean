import Wireframe.Plan.Basic
import Wireframe.Prompt.Classify

/-!
# Changes to plans

* **Effects** (`Effect`): what a rule does to a component.
* **Edits** (`Plan.edit`): every rule whose words stand in the prompt is applied, in order, to the first component.
* **Forgotten passwords** (`Plan.addForgotPassword`): the first component gets one more button.
-/

namespace Wireframe

namespace Prompt

inductive Effect where
  | append (kind : Kind) (caption : String)
  | removeChildren (kind : Kind)
  | setTitle (title : String)

/-- A change to a component; a title is set only where the kind has one. -/
def Effect.apply : Effect → Component → Component
  | append k s, c => { c with children := c.children ++ [.captioned k s] }
  | removeChildren k, c => { c with children := c.children.filter fun d => d.kind ≠ k }
  | setTitle s, c => if c.kind.caption = "title" then { c with props := c.props.set "title" s } else c

/-- The changes that prompts can ask for, by the words that ask for them. -/
def effects : List (String × Effect) := [
  ("remember", .append .input "Remember Me"),
  ("confirm password", .append .input "Confirm Password"),
  ("remove button", .removeChildren .button),
  ("signup", .setTitle "Sign Up")]

/-- A component after the changes that a lowered prompt asks for. -/
def applyEffects (low : List Char) (c : Component) : Component :=
  (effects.filter fun e => mentions low e.1).foldl (fun c e => e.2.apply c) c

def forgotWord : String := "forgot"

end Prompt

namespace Plan

def mapFirst (f : Component → Component) (p : Plan) : Plan :=
  { p with components := match p.components with
    | [] => []
    | c :: cs => f c :: cs }

def edit (p : Plan) (prompt : String) : Plan := p.mapFirst (Prompt.applyEffects (Prompt.lowered prompt))

def addForgotPassword (p : Plan) : Plan := p.mapFirst (Prompt.Effect.append .button "Forgot Password").apply

end Plan

end Wireframe
