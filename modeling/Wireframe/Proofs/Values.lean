import Wireframe.Plan.Basic
import Wireframe.Proofs.KeyOrder

/-!
# Plans as values

* **Canonical values** (`Json.canon_canon`): a canonical value is its own canonical form, since sorting moves members
  without looking at their values and leaves sorted members as they are.
* **The value of a plan** (`Plan.toValue_eq`, `Component.toValue_eq`): its members in key order, so that every look-up
  in it can be computed.
-/

namespace Wireframe

namespace Json

theorem canonMembers_eq_map (ms : List (String × Json)) : canonMembers ms = ms.map fun m => (m.1, m.2.canon) := by
  induction ms with
  | nil => rfl
  | cons m ms ih => rw [canonMembers, List.map_cons, ih]

/-- The canonical members of sorted members are the sorted canonical members. -/
theorem canonMembers_sort (ms : List (String × Json)) :
    canonMembers (Members.sort ms) = Members.sort (canonMembers ms) := by
  rw [canonMembers_eq_map, canonMembers_eq_map, Members.sort_map]

mutual

theorem canon_canon : (v : Json) → v.canon.canon = v.canon
  | .null => by rw [canon, canon]
  | .bool _ => by rw [canon, canon]
  | .num _ => by rw [canon, canon]
  | .str _ => by rw [canon, canon]
  | .arr xs => by rw [canon, canon, canonItems_canonItems xs]
  | .obj ms => by
    rw [canon, canon, canonMembers_sort, canonMembers_canonMembers ms, Members.sort_eq_self (Members.ascending_sort _)]

theorem canonItems_canonItems : (vs : List Json) → canonItems (canonItems vs) = canonItems vs
  | [] => rfl
  | v :: vs => by rw [canonItems, canonItems, canon_canon v, canonItems_canonItems vs]

theorem canonMembers_canonMembers : (ms : List (String × Json)) → canonMembers (canonMembers ms) = canonMembers ms
  | [] => rfl
  | (k, v) :: ms => by rw [canonMembers, canonMembers, canon_canon v, canonMembers_canonMembers ms]

end

end Json

/-! ## Texts of a component -/

namespace Props

theorem canon_toJson (p : Props) : p.toJson.canon = p.toJson := by
  have hs : Members.Ascending (p.entries.map fun m => (m.1, Json.str m.2)) := List.pairwise_map.mpr p.ascending
  have hm : (p.entries.map fun m => (m.1, Json.str m.2)).map (fun m => (m.1, m.2.canon)) =
      p.entries.map fun m => (m.1, Json.str m.2) := by
    rw [List.map_map]
    exact List.map_congr_left fun m _ => by simp [Json.canon]
  rw [toJson, Json.canon, Json.canonMembers_eq_map, hm, Members.sort_eq_self hs]

theorem get?_toJson (p : Props) (key : String) : p.toJson.get? key = (p.get? key).map Json.str := by
  rw [toJson, Json.get?, get?]
  induction p.entries with
  | nil => rfl
  | cons m ms ih =>
    rw [List.map_cons, Members.lookup_cons_ite, Members.lookup_cons_ite, ih]
    split <;> rfl

end Props

/-! ## Components and plans -/

namespace Component

/-- A component as a value in key order. -/
def toValue (c : Component) : Json := c.toJson.canon

theorem toValue_eq (c : Component) :
    c.toValue = .obj [("children", .arr (c.children.map toValue)), ("props", c.props.toJson),
      ("type", .str c.kind.name)] := by
  obtain ⟨k, p, cs⟩ := c
  have hprops : ¬ "props" < "children" := by decide
  have htype : ¬ "type" < "children" ∧ ¬ "type" < "props" := by decide
  have hsort : ∀ a b d : Json, Members.sort [("type", a), ("props", b), ("children", d)] =
      [("children", d), ("props", b), ("type", a)] := by
    simp only [Members.sort, List.foldr_cons, List.foldr_nil, Members.insert, hprops, htype, String.reduceEq, if_false,
      implies_true]
  rw [toValue, toJson, Json.canon, Json.canonMembers_eq_map]
  simp only [List.map_cons, List.map_nil, hsort, Props.canon_toJson, Json.canon, Json.canonItems_eq_map,
    toJsonAll_eq_map, List.map_map]
  rfl

@[simp] theorem get?_type_toValue (c : Component) : c.toValue.get? "type" = some (.str c.kind.name) := by
  simp [toValue_eq, Json.get?, Members.lookup_cons_ite]

@[simp] theorem get?_props_toValue (c : Component) : c.toValue.get? "props" = some c.props.toJson := by
  simp [toValue_eq, Json.get?, Members.lookup_cons_ite]

@[simp] theorem get?_children_toValue (c : Component) :
    c.toValue.get? "children" = some (.arr (c.children.map toValue)) := by
  simp [toValue_eq, Json.get?]

end Component

/-- The members of a plan's value. -/
theorem Plan.toValue_eq (p : Plan) :
    p.toValue = .obj [("components", .arr (p.components.map Component.toValue)), ("layout", .str p.layout)] := by
  have hlayout : ¬ "layout" < "components" := by decide
  have hsort : ∀ a b : Json, Members.sort [("layout", a), ("components", b)] =
      [("components", b), ("layout", a)] := by
    simp only [Members.sort, List.foldr_cons, List.foldr_nil, Members.insert, hlayout, String.reduceEq, if_false,
      implies_true]
  rw [toValue, toJson, Json.canon, Json.canonMembers_eq_map]
  simp only [List.map_cons, List.map_nil, hsort, Json.canon, Json.canonItems_eq_map, Component.toJsonAll_eq_map,
    List.map_map]
  rfl

@[simp] theorem Plan.canon_toValue (p : Plan) : p.toValue.canon = p.toValue := Json.canon_canon _

@[simp] theorem Plan.get?_layout_toValue (p : Plan) : p.toValue.get? "layout" = some (.str p.layout) := by
  simp [toValue_eq, Json.get?, Members.lookup_cons_ite]

@[simp] theorem Plan.get?_components_toValue (p : Plan) :
    p.toValue.get? "components" = some (.arr (p.components.map Component.toValue)) := by
  simp [toValue_eq, Json.get?]

end Wireframe
