import Wireframe.Plan.Kind
import Wireframe.Plan.Props
import Wireframe.Json.Stable

/-!
# Plans

* **Components** (`Component`): a kind, texts, and the components inside.
* **Plans** (`Plan`): a layout and the components at the top.
* **Measures** (`Component.depth`, `Component.count`, `Plan.maxDepth`, `Plan.count`).
* **Texts and values** (`Plan.toJson`, `Plan.toValue`, `Plan.fingerprint`): members in the order of a plan's text, the
  value in key order, and the digest of that.
-/

namespace Wireframe

/-- A component with the components inside it. -/
structure Component where
  kind : Kind
  props : Props
  children : List Component

/-- A layout and the components at its top. -/
structure Plan where
  layout : String
  components : List Component

namespace Component

/-- A component with its caption and nothing inside. -/
def captioned (kind : Kind) (caption : String) : Component := ⟨kind, Props.empty.set kind.caption caption, []⟩

def card (title : String) (children : List Component := []) : Component :=
  { captioned .card title with children }

def input (label : String) : Component := captioned .input label

def button (label : String) : Component := captioned .button label

/-- A text of a component, if there is one that is not empty. -/
def prop? (c : Component) (key : String) : Option String := (c.props.get? key).filter fun s => !s.isEmpty

/-- The text that names a component: its label, or else its title. -/
def label? (c : Component) : Option String := (c.prop? "label").or (c.prop? "title")

/-! ## Measures -/

mutual

/-- How many levels there are below a component. -/
def depth : Component → Nat
  | ⟨_, _, cs⟩ => height cs

/-- How many levels a list of components has. -/
def height : List Component → Nat
  | [] => 0
  | c :: cs => max (depth c + 1) (height cs)

end

mutual

/-- How many components there are in a component, itself included. -/
def count : Component → Nat
  | ⟨_, _, cs⟩ => 1 + countAll cs

def countAll : List Component → Nat
  | [] => 0
  | c :: cs => count c + countAll cs

end

theorem countAll_append (cs ds : List Component) : countAll (cs ++ ds) = countAll cs + countAll ds := by
  induction cs with
  | nil => rw [List.nil_append, countAll, Nat.zero_add]
  | cons c cs ih => rw [List.cons_append, countAll, countAll, ih, Nat.add_assoc]

theorem countAll_reverse (cs : List Component) : countAll cs.reverse = countAll cs := by
  induction cs with
  | nil => rfl
  | cons c cs ih =>
    rw [List.reverse_cons, countAll_append, ih, countAll, countAll, countAll, Nat.add_zero, Nat.add_comm]

/-! ## Values -/

mutual

/-- A component as a value, with its members in the order of a plan's text. -/
def toJson : Component → Json
  | ⟨k, p, cs⟩ => .obj [("type", .str k.name), ("props", p.toJson), ("children", .arr (toJsonAll cs))]

def toJsonAll : List Component → List Json
  | [] => []
  | c :: cs => toJson c :: toJsonAll cs

end

theorem toJsonAll_eq_map (cs : List Component) : toJsonAll cs = cs.map toJson := by
  induction cs with
  | nil => rfl
  | cons c cs ih => rw [toJsonAll, List.map_cons, ih]

/-- What holds of a component whenever it holds of the components inside holds of all components. -/
theorem induct {motive : Component → Prop}
    (mk : ∀ kind props children, (∀ c ∈ children, motive c) → motive ⟨kind, props, children⟩) (c : Component) :
    motive c :=
  @Component.rec motive (fun cs => ∀ c ∈ cs, motive c)
    (fun k p cs ih => mk k p cs ih) (by simp)
    (fun _ _ hc hcs => List.forall_mem_cons.mpr ⟨hc, hcs⟩) c

/-- A list of components has more levels than there are below each of them. -/
theorem depth_lt_height {cs : List Component} {c : Component} (h : c ∈ cs) : c.depth < height cs := by
  induction cs with
  | nil => cases h
  | cons d cs ih =>
    rw [height]
    rcases List.mem_cons.mp h with rfl | h
    · omega
    · have := ih h
      omega

end Component

namespace Plan

/-- The layout of a plan that names none. -/
def defaultLayout : String := "default"

/-- The depth of the deepest component, where the components at the top have depth 0. -/
def maxDepth (p : Plan) : Option Nat :=
  if p.components.isEmpty then none else some (Component.height p.components - 1)

/-- The components at the top of a plan have no more levels below them than the plan is deep. -/
theorem depth_le_of_mem {p : Plan} {bound : Nat} (h : ∀ n, p.maxDepth = some n → n ≤ bound) {c : Component}
    (hc : c ∈ p.components) : c.depth ≤ bound := by
  have hne : p.components.isEmpty = false := by
    rw [List.isEmpty_eq_false_iff]
    exact List.ne_nil_of_mem hc
  have hmax := h (Component.height p.components - 1) (by simp [maxDepth, hne])
  have hlt := Component.depth_lt_height hc
  omega

def count (p : Plan) : Nat := Component.countAll p.components

def toJson (p : Plan) : Json :=
  .obj [("layout", .str p.layout), ("components", .arr (Component.toJsonAll p.components))]

/-- A plan as a value in key order. -/
def toValue (p : Plan) : Json := p.toJson.canon

def fingerprint (p : Plan) : String := p.toValue.fingerprint

end Plan

end Wireframe
