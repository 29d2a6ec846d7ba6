import Wireframe.Plan.Basic
import Wireframe.Limits

/-!
# Plans from untrusted values

* **Salvage** (`Component.salvage`, `Plan.salvage`): a plan from any value. Components of unknown kinds or below the
  depth bound are dropped with all they hold, only captions are kept, and a container left empty gets one button.
-/

namespace Wireframe

def truncate (s : String) (max : Nat) : String := String.ofList (s.toList.take max)

namespace Component

/-- The button in a container that would be empty. -/
def fallback : Component := button "Action"

/-- The caption of a component of a kind, cut to its greatest length, if the value has one. -/
def salvageProps (kind : Kind) (props : Option Json) : Props :=
  match (props.bind (·.get? kind.caption)).bind Json.text? with
  | some s => Props.empty.set kind.caption (truncate s Limits.propLength)
  | none => Props.empty

/-- A container is not left empty. -/
def orFallback (kind : Kind) (children : List Component) : List Component :=
  if kind.isContainer && children.isEmpty then [fallback] else children

/-- The component that a value is, reading `levels` levels of it. -/
def salvageAt : Nat → Json → Option Component
  | 0, _ => none
  | levels + 1, v =>
    match ((v.get? "type").bind Json.text?).bind Kind.ofName? with
    | none => none
    | some kind =>
      let inside := ((v.get? "children").bind Json.items?).getD []
      some ⟨kind, salvageProps kind (v.get? "props"), orFallback kind (inside.filterMap (salvageAt levels))⟩

/-- The component that a value at the top of a plan is. -/
def salvage (v : Json) : Option Component := salvageAt (Limits.salvageDepth + 1) v

end Component

namespace Plan

/-- The plan that a value is. -/
def salvage (v : Json) : Plan where
  layout := ((v.get? "layout").bind Json.text?).getD defaultLayout
  components := (((v.get? "components").bind Json.items?).getD []).filterMap Component.salvage

end Plan

end Wireframe
