import Wireframe.Json.Decode

/-!
# Kinds of components

* **Kinds** (`Kind`): cards and modals hold other components, inputs and buttons do not.
* **Caption** (`Kind.caption`): the one text that a component of a kind carries.
-/

namespace Wireframe

/-- What a component is. -/
inductive Kind where
  | card
  | input
  | button
  | modal
deriving DecidableEq, Repr

namespace Kind

def all : List Kind := [card, input, button, modal]

def name : Kind → String
  | card => "Card"
  | input => "Input"
  | button => "Button"
  | modal => "Modal"

def ofName? (s : String) : Option Kind := all.find? fun k => k.name == s

/-- The key of the text that a component of this kind carries. -/
def caption : Kind → String
  | card => "title"
  | input => "label"
  | button => "label"
  | modal => "title"

/-- Whether components of this kind hold others. -/
def isContainer : Kind → Bool
  | card => true
  | input => false
  | button => false
  | modal => true

def unknownMessage (s : String) : String := s!"unknown component kind `{s}`"

def decode : Json.Decoder Kind := (Json.names all name).decode

@[simp] theorem ofName?_name (k : Kind) : ofName? k.name = some k := by
  cases k <;> rfl

theorem name_of_ofName? {s : String} {k : Kind} (h : ofName? s = some k) : k.name = s := by
  simpa using List.find?_some h

end Kind

end Wireframe
