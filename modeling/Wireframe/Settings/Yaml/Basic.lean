import Wireframe.Settings.Yaml.Token

/-!
# Settings files in YAML

* **Documents** (`Yaml`) and how they are read from tokens (`Yaml.node`).
* **Whole texts** (`Yaml.ofText?`): at most one document.
* **Typed values** (`text?`, `natural?`, `fields`).
-/

namespace Wireframe

/-- A document. A plain scalar may stand for a number, a quoted one is a text. -/
inductive Yaml where
  | scalar (quoted : Bool) (text : List Char)
  | seq (items : List Yaml)
  | map (members : List (Yaml × Yaml))

namespace Yaml

/-- A value that is left out. -/
def nothing : Yaml := .scalar false []

/-! ## Documents from tokens -/

/-- What is read unless one of some tokens comes next: then it is left out. -/
def unlessNext (stops : List Token) (read : List Token → Option (Yaml × List Token)) :
    List Token → Option (Yaml × List Token)
  | [] => none
  | t :: r => if stops.contains t then some (nothing, t :: r) else read (t :: r)

mutual

/-- A node. A list without a block of its own may stand where a key or a value of a block stands. -/
def node (bareList : Bool) : Nat → List Token → Option (Yaml × List Token)
  | 0, _ => none
  | _, [] => none
  | fuel + 1, t :: r =>
    match t with
    | .scalar quoted text => some (.scalar quoted text, r)
    | .openList => (flowItems fuel r).map fun q => (.seq q.1, q.2)
    | .openMap => (flowMembers fuel r).map fun q => (.map q.1, q.2)
    | .blockList => (blockItems fuel r).map fun q => (.seq q.1, q.2)
    | .blockMap => (blockMembers fuel r).map fun q => (.map q.1, q.2)
    | .item => if bareList then (bareItems fuel (t :: r)).map fun q => (.seq q.1, q.2) else none
    | _ => none

def blockItems : Nat → List Token → Option (List Yaml × List Token)
  | fuel + 1, .item :: r => do
    let (v, r) ← unlessNext [.item, .blockEnd] (node false fuel) r
    let (vs, r) ← blockItems fuel r
    return (v :: vs, r)
  | _ + 1, .blockEnd :: r => some ([], r)
  | _, _ => none

/-- The items of a list without a block of its own. -/
def bareItems : Nat → List Token → Option (List Yaml × List Token)
  | 0, _ => none
  | fuel + 1, .item :: r => do
    let (v, r) ← unlessNext [.item, .key, .value, .blockEnd] (node false fuel) r
    let (vs, r) ← bareItems fuel r
    return (v :: vs, r)
  | _ + 1, r => some ([], r)

def blockMembers : Nat → List Token → Option (List (Yaml × Yaml) × List Token)
  | fuel + 1, .key :: r => do
    let (k, r) ← unlessNext [.key, .value, .blockEnd] (node true fuel) r
    let (v, r) ← match r with
      | .value :: r => unlessNext [.key, .value, .blockEnd] (node true fuel) r
      | r => some (nothing, r)
    let (ms, r) ← blockMembers fuel r
    return ((k, v) :: ms, r)
  | _ + 1, .blockEnd :: r => some ([], r)
  | _, _ => none

/-- The items in brackets after the first bracket or a comma. An item may be a key with a value, which is a map of its
own; in place of a key that is left out, one token is passed over. -/
def flowItems : Nat → List Token → Option (List Yaml × List Token)
  | 0, _ => none
  | _ + 1, .closeList :: r => some ([], r)
  | fuel + 1, r => do
    let (v, r) ← match r with
      | .key :: r => do
        let (k, r) ← match r with
          | .value :: r => some (nothing, r)
          | .comma :: r => some (nothing, r)
          | .closeList :: r => some (nothing, r)
          | r => node false fuel r
        let (v, r) ← match r with
          | .value :: r => unlessNext [.comma, .closeList] (node false fuel) r
          | r => some (nothing, r)
        some (.map [(k, v)], r)
      | r => node false fuel r
    match r with
    | .closeList :: r => return ([v], r)
    | .comma :: r =>
      let (vs, r) ← flowItems fuel r
      return (v :: vs, r)
    | _ => none

/-- The members in braces after the first brace or a comma. -/
def flowMembers : Nat → List Token → Option (List (Yaml × Yaml) × List Token)
  | 0, _ => none
  | _ + 1, .closeMap :: r => some ([], r)
  | fuel + 1, r => do
    let (k, v, r) ← match r with
      | .key :: r => do
        let (k, r) ← unlessNext [.value, .comma, .closeMap] (node false fuel) r
        let (v, r) ← match r with
          | .value :: r => unlessNext [.comma, .closeMap] (node false fuel) r
          | r => some (nothing, r)
        some (k, v, r)
      | r => (node false fuel r).map fun q => (q.1, nothing, q.2)
    match r with
    | .closeMap :: r => return ([(k, v)], r)
    | .comma :: r =>
      let (ms, r) ← flowMembers fuel r
      return ((k, v) :: ms, r)
    | _ => none

end

/-! ## Whole texts -/

/-- The one document of a text, and the tokens after it. -/
def document : List Token → Option (Yaml × List Token)
  | [] => some (nothing, [])
  | .documentStart :: [] => some (nothing, [])
  | .documentStart :: r => unlessNext [.documentStart, .documentEnd] (node false (2 * r.length + 2)) r
  | r => node false (2 * r.length + 2) r

/-- The document of a text. After it, nothing but end markers may stand. -/
def ofText? (text : String) : Option Yaml := do
  let (v, r) ← document (← Token.ofCells? (← cells? text))
  if r.all (· == .documentEnd) then some v else none

/-! ## Typed values -/

def text? : Yaml → Option String
  | .scalar _ s => some (String.ofList s)
  | _ => none

/-- The number below `2 ^ 64` that a plain scalar spells, in decimal digits without leading zeros or in another base. -/
def natural? : Yaml → Option Nat
  | .scalar false s =>
    let ds := match s with
      | '+' :: ds => ds
      | ds => ds
    let n := match ds with
      | '0' :: 'x' :: hs => ofBase? 16 hs
      | '0' :: 'o' :: os => ofBase? 8 os
      | '0' :: 'b' :: bs => ofBase? 2 bs
      | '0' :: _ :: _ => none
      | ds => ofBase? 10 ds
    n.filter (· < Nat.pow 2 64)
  | _ => none

/-- The values of some fields: a mapping names each of them at most once, and nothing has none of them. -/
def fields (names : List String) : Yaml → Option (List (Option Yaml))
  | .scalar false [] => some (names.map fun _ => none)
  | .map ms => do
    let keys ← ms.mapM fun m => m.1.text?
    let pairs := keys.zip (ms.map Prod.snd)
    names.mapM fun n =>
      match pairs.filter fun p => p.1 == n with
      | [] => some none
      | [p] => some (some p.2)
      | _ => none
  | _ => none

/-- A field read by a decoder, if it is there. -/
def field {α : Type} (decode : Yaml → Option α) : Option Yaml → Option (Option α)
  | none => some none
  | some v => (decode v).map some

end Yaml

end Wireframe
