import Wireframe.Plan.Basic

/-!
# Plans from documents

* **Components** (`Component.decode`): a kind is needed, texts and components inside are not.
* **Plans** (`Plan.decode`): a layout and a list of components.
-/

namespace Wireframe

open Json (Doc Entry Decoder DecodeError)

/-! ## Components -/

namespace Component

/-- A document and the list of components that it would be. -/
abbrev Source := Doc × Except DecodeError (List Component)

/-- A component whose fields are read one by one. -/
structure Draft where
  kind : Option Kind := none
  props : Option Props := none
  children : Option (List Component) := none

def Draft.finish (d : Draft) : Except Json.Mismatch Component :=
  match d.kind with
  | some k => .ok ⟨k, d.props.getD .empty, d.children.getD []⟩
  | none => .error (.missing "type")

def record : Json.Record Source Draft Component where
  name := "struct Component"
  fields := [
    .of "type" false Draft.kind (fun b d => { d with kind := some b }) fun s => Kind.decode s.1,
    .of "props" true Draft.props (fun b d => { d with props := some b }) fun s =>
      (Json.stringMap s.1).map Props.ofList,
    .of "children" true Draft.children (fun b d => { d with children := some b }) fun s => s.2]
  empty := {}
  finish := Draft.finish

mutual

def decode : Doc → Except DecodeError Component
  | .obj _ deep es ending => record.ofEntries Prod.fst deep (entrySources es) ending
  | .arr _ deep ds ending => record.ofItems Prod.fst deep (itemSources ds) ending
  | .scalar start stop v => Json.otherType record.name (.scalar start stop v)
  | .broken start wanted passed => Json.otherType record.name (.broken start wanted passed)
  | .absent f => Json.otherType record.name (.absent f)

def decodeList : Doc → Except DecodeError (List Component)
  | .arr _ deep ds ending => do
    Json.orFault (Json.enter deep)
    let cs ← decodeItems ds
    Json.orFault ending.check
    return cs
  | .obj start deep es ending => Json.otherType "a sequence" (.obj start deep es ending)
  | .scalar start stop v => Json.otherType "a sequence" (.scalar start stop v)
  | .broken start wanted passed => Json.otherType "a sequence" (.broken start wanted passed)
  | .absent f => Json.otherType "a sequence" (.absent f)

def decodeItems : List Doc → Except DecodeError (List Component)
  | [] => .ok []
  | d :: ds => do
    let c ← Json.placed (d.stop?.map Json.leaveList) (decode d)
    let cs ← decodeItems ds
    return c :: cs

/-- Documents with the lists of components that they would be. -/
def itemSources : List Doc → List Source
  | [] => []
  | d :: ds => (d, decodeList d) :: itemSources ds

/-- Members with the lists of components that their values would be. -/
def entrySources : List (Entry Doc) → List (Entry Source)
  | [] => []
  | e :: es => ⟨e.key, e.afterKey, e.value, decodeList e.value⟩ :: entrySources es

end

end Component

/-! ## Plans -/

namespace Plan

structure Draft where
  layout : Option String := none
  components : Option (List Component) := none

def Draft.finish (d : Draft) : Except Json.Mismatch Plan :=
  match d with
  | ⟨none, _⟩ => .error (.missing "layout")
  | ⟨_, none⟩ => .error (.missing "components")
  | ⟨some l, some cs⟩ => .ok ⟨l, cs⟩

def record : Json.Record Doc Draft Plan where
  name := "struct Plan"
  fields := [
    .of "layout" false Draft.layout (fun b d => { d with layout := some b }) Json.string,
    .of "components" false Draft.components (fun b d => { d with components := some b }) Component.decodeList]
  empty := {}
  finish := Draft.finish

def decode : Decoder Plan := record.decode

end Plan

end Wireframe
