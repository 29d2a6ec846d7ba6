import Wireframe.Members
import Wireframe.Json.Basic

/-!
# Texts of a component

* **Props** (`Props`): texts by key, in ascending key order.
* **Access** (`get?`, `set`): `get?_set` says what a change does; two props with the same texts are equal (`ext`).
-/

namespace Wireframe

/-- Texts by key. -/
structure Props where
  entries : List (String × String)
  ascending : Members.Ascending entries

namespace Props

def empty : Props := ⟨[], List.Pairwise.nil⟩

def get? (p : Props) (key : String) : Option String := p.entries.lookup key

def set (p : Props) (key value : String) : Props :=
  ⟨Members.insert key value p.entries, Members.ascending_insert key value p.ascending⟩

/-- Props from members; a later text of a key counts. -/
def ofList (ms : List (String × String)) : Props := ⟨Members.ofList ms, Members.ascending_ofList ms⟩

def toJson (p : Props) : Json := .obj (p.entries.map fun m => (m.1, .str m.2))

theorem ext {p q : Props} (h : p.entries = q.entries) : p = q := by
  cases p; cases q; cases h; rfl

instance : DecidableEq Props := fun p q =>
  if h : p.entries = q.entries then isTrue (ext h) else isFalse fun e => h (e ▸ rfl)

/-- Setting a text changes the text of its own key only. -/
theorem get?_set (p : Props) (key value k : String) :
    (p.set key value).get? k = if k = key then some value else p.get? k :=
  Members.lookup_insert key k value p.entries

@[simp] theorem get?_empty (k : String) : empty.get? k = none := rfl

end Props

end Wireframe
