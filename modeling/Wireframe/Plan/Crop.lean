import Wireframe.Plan.Basic
import Wireframe.Limits

/-!
# Plans within bounds

* **Cropping** (`Component.crop`, `Plan.crop`): components beyond the bounds are dropped with all they hold; the others
  stay as they are.
-/

namespace Wireframe

namespace Component

/-- A component with at most `levels` levels below it. -/
def crop : Nat → Component → Component
  | 0, c => { c with children := [] }
  | levels + 1, c => { c with children := c.children.map (crop levels) }

/-- A component that stands at a depth, cropped at the greatest depth; nothing if it stands deeper. Depths are counted
in 64 bits, so none is beyond the greatest count. -/
def cropAt (depth maxDepth : Nat) (c : Component) : Option Component :=
  if maxDepth < depth then none
  else if maxDepth = Limits.greatestCount then some c
  else some (crop (maxDepth - depth) c)

end Component

/-- A plan with the components that the limits allow. -/
def Plan.crop (p : Plan) (l : Limits) : Plan :=
  { p with components := (p.components.take l.maxComponents).map (Component.crop l.maxDepth) }

end Wireframe
