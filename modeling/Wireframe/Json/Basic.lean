import Wireframe.Members
import Wireframe.Number.Binary64

/-!
# Documents

* **Values** (`Json`): null, truth values, numbers, texts, arrays, and objects as lists of members.
* **Looking in** (`get?`, `text?`, `items?`, `members?`): the first member of a key counts, and a value of another type
  has no members.
* **Canonical form** (`canon`): every object in ascending key order with one member for each key; looking in commutes
  with it (`get?_canon`).
-/

namespace Wireframe

/-- A number: an integer from `-2 ^ 63` to `2 ^ 64 - 1`, or a floating-point number. -/
inductive Number where
  | int (value : Int)
  | float (value : Binary64)
deriving DecidableEq

/-- A document. -/
inductive Json where
  | null
  | bool (value : Bool)
  | num (value : Number)
  | str (value : String)
  | arr (items : List Json)
  | obj (members : List (String × Json))

namespace Json

def ofNat (n : Nat) : Json := .num (.int n)

def get? (v : Json) (key : String) : Option Json :=
  match v with
  | .obj ms => ms.lookup key
  | _ => none

def text? : Json → Option String
  | .str s => some s
  | _ => none

def items? : Json → Option (List Json)
  | .arr xs => some xs
  | _ => none

def members? : Json → Option (List (String × Json))
  | .obj ms => some ms
  | _ => none

/-! ## Canonical form -/

mutual

/-- The value with the members of every object in key order, one for each key. -/
def canon : Json → Json
  | .null => .null
  | .bool b => .bool b
  | .num n => .num n
  | .str s => .str s
  | .arr xs => .arr (canonItems xs)
  | .obj ms => .obj (Members.sort (canonMembers ms))

def canonItems : List Json → List Json
  | [] => []
  | v :: vs => canon v :: canonItems vs

def canonMembers : List (String × Json) → List (String × Json)
  | [] => []
  | (k, v) :: ms => (k, canon v) :: canonMembers ms

end

theorem canonItems_eq_map (xs : List Json) : canonItems xs = xs.map canon := by
  induction xs with
  | nil => rfl
  | cons x xs ih => rw [canonItems, List.map_cons, ih]

/-- The first member of a key is found in canonical form. -/
theorem lookup_canonMembers (key : String) (ms : List (String × Json)) :
    (canonMembers ms).lookup key = (ms.lookup key).map canon := by
  induction ms with
  | nil => rfl
  | cons m ms ih =>
    obtain ⟨k, v⟩ := m
    rw [canonMembers, Members.lookup_cons_ite, Members.lookup_cons_ite, ih]
    split <;> rfl

/-- A member of a canonical value is the canonical form of the member. -/
theorem get?_canon (v : Json) (key : String) : v.canon.get? key = (v.get? key).map canon := by
  cases v with
  | obj ms => rw [canon, get?, get?, Members.lookup_sort, lookup_canonMembers]
  | _ => simp [canon, get?]

end Json

end Wireframe
