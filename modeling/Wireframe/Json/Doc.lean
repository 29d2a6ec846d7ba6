import Wireframe.Json.Basic
import Wireframe.Json.Fault

/-!
# Documents as they stand in a text

A document read as far as it goes. Every part knows its place, and a part that is not well formed holds its faults, so
that a reader of the whole meets them in the order of the text.

* **Parts** (`Doc`): scalars, arrays, objects, and what is broken or missing.
* **Two measures** of a part: its value where that is wanted (`value`), and its shape alone where it is passed over
  (`skip`).
* **Values as documents** (`ofJson`): a value held in memory is a document without places.
-/

namespace Wireframe.Json

/-- A value without parts. -/
inductive Scalar where
  | null
  | bool (value : Bool)
  | num (value : Number)
  | str (value : String)
deriving DecidableEq

def Scalar.toJson : Scalar → Json
  | null => .null
  | bool b => .bool b
  | num n => .num n
  | str s => .str s

/-- How the list of items or members of a container ends. -/
inductive Ending where
  /-- With its bracket. -/
  | closed (bracket : Option Mark)
  /-- Too early; a reader that passes the container over may see another fault. -/
  | cut (wanted passed : Fault)

/-- A member of an object: its key, the place after the key, and its value. -/
structure Entry (α : Type) where
  key : Except Fault String
  afterKey : Option Mark
  value : α

/-- A document as it stands in a text. -/
inductive Doc where
  /-- A scalar; its shape is right, but it may spell no value. -/
  | scalar (start stop : Option Mark) (value : Except Fault Scalar)
  /-- An array; one that stands too deep has no value. -/
  | arr (start : Option Mark) (deep : Option Fault) (items : List Doc) (ending : Ending)
  /-- An object; one that stands too deep has no value. -/
  | obj (start : Option Mark) (deep : Option Fault) (entries : List (Entry Doc)) (ending : Ending)
  /-- Characters that make no value. -/
  | broken (start : Mark) (wanted passed : Fault)
  /-- No value where one should be. -/
  | absent (fault : Fault)

/-! ## Places -/

/-- The place after the bracket of a container. -/
def Ending.stop? : Ending → Option Mark
  | closed (some m) => some (.here (m.rest.drop 1))
  | _ => none

def Doc.stop? : Doc → Option Mark
  | scalar _ s _ => s
  | arr _ _ _ e => e.stop?
  | obj _ _ _ e => e.stop?
  | broken .. => none
  | absent _ => none

/-! ## Values and shapes -/

/-- A container whose end is wanted has to have one. -/
def Ending.check : Ending → Except Fault Unit
  | closed _ => .ok ()
  | cut f _ => .error f

/-- A container that is passed over has to end as well. -/
def Ending.skip : Ending → Except Fault Unit
  | closed _ => .ok ()
  | cut _ f => .error f

/-- A container that is entered must not stand too deep. -/
def enter : Option Fault → Except Fault Unit
  | none => .ok ()
  | some f => .error f

namespace Doc

mutual

/-- The value of a document; a later member of an object replaces an earlier one of the same key. -/
def value : Doc → Except Fault Json
  | scalar _ _ v => v.map Scalar.toJson
  | arr _ deep xs e => do
    enter deep
    let vs ← values xs
    e.check
    return .arr vs
  | obj _ deep es e => do
    enter deep
    let ms ← memberValues es
    e.check
    return .obj (Members.ofList ms)
  | broken _ f _ => .error f
  | absent f => .error f

/-- The values of documents, up to the first fault. -/
def values : List Doc → Except Fault (List Json)
  | [] => .ok []
  | d :: ds => do
    let v ← value d
    let vs ← values ds
    return v :: vs

def memberValues : List (Entry Doc) → Except Fault (List (String × Json))
  | [] => .ok []
  | e :: es => do
    let k ← e.key
    let v ← value e.value
    let ms ← memberValues es
    return (k, v) :: ms

end

mutual

/-- The shape of a document that is passed over. -/
def skip : Doc → Except Fault Unit
  | scalar .. => .ok ()
  | arr _ _ xs e => do
    skipAll xs
    e.skip
  | obj _ _ es e => do
    skipEntries es
    e.skip
  | broken _ _ f => .error f
  | absent f => .error f

def skipAll : List Doc → Except Fault Unit
  | [] => .ok ()
  | d :: ds => do
    skip d
    skipAll ds

/-- The shapes of members, up to the first fault; their keys may spell no text. -/
def skipEntries : List (Entry Doc) → Except Fault Unit
  | [] => .ok ()
  | e :: es => do
    skip e.value
    skipEntries es

end

/-! ## Values as documents -/

mutual

/-- A value as a document without places. -/
def ofJson : Json → Doc
  | .null => .scalar none none (.ok .null)
  | .bool b => .scalar none none (.ok (.bool b))
  | .num n => .scalar none none (.ok (.num n))
  | .str s => .scalar none none (.ok (.str s))
  | .arr xs => .arr none none (ofItems xs) (.closed none)
  | .obj ms => .obj none none (ofMembers ms) (.closed none)

def ofItems : List Json → List Doc
  | [] => []
  | v :: vs => ofJson v :: ofItems vs

def ofMembers : List (String × Json) → List (Entry Doc)
  | [] => []
  | (k, v) :: ms => ⟨.ok k, none, ofJson v⟩ :: ofMembers ms

end

end Doc

end Wireframe.Json
