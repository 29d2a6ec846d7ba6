import Wireframe.Plan.Basic

/-!
# Missing texts

* **Completion** (`Component.complete`, `Plan.complete`): every component gets the texts that its kind shows; a text
  that is empty counts as missing, and an input repeats its label as its placeholder.
-/

namespace Wireframe

/-- The text of a key is set if there is none or an empty one. -/
def Props.fill (p : Props) (key value : String) : Props :=
  if (p.get? key).all String.isEmpty then p.set key value else p

/-- The caption of a component that has none. -/
def Kind.usualCaption : Kind → String
  | .card => "Card"
  | .input => "Input"
  | .button => "Click"
  | .modal => "Modal"

/-- The texts of a component with the missing ones filled in. -/
def Kind.completeProps (k : Kind) (p : Props) : Props :=
  let q := p.fill k.caption k.usualCaption
  match k with
  | .input => q.fill "placeholder" ((q.get? "label").getD "")
  | _ => q

namespace Component

mutual

/-- A component with its missing texts filled in, and so for the components inside. -/
def complete : Component → Component
  | ⟨k, p, cs⟩ => ⟨k, k.completeProps p, completeAll cs⟩

def completeAll : List Component → List Component
  | [] => []
  | c :: cs => complete c :: completeAll cs

end

theorem completeAll_eq_map (cs : List Component) : completeAll cs = cs.map complete := by
  induction cs with
  | nil => rfl
  | cons c cs ih => rw [completeAll, List.map_cons, ih]

end Component

def Plan.complete (p : Plan) : Plan := { p with components := Component.completeAll p.components }

end Wireframe
