import Wireframe.Plan.Kind
import Wireframe.Issue
import Wireframe.Limits

/-!
# The schema of plans

* **The schema** (`Schema.document`): what a plan document looks like, as a document itself.
* **Findings** (`Schema.findings`): every place where a value breaks the schema, in the order of its members. Members
  that the schema does not name are free.
* **Issues** (`Schema.issues`): the findings in words, with their places.
-/

namespace Wireframe.Schema

def id : String := "uiplan-plan/0.1.0"

def kindNames : Json := .arr (Kind.all.map fun k => .str k.name)

/-- A schema that allows values of one type. -/
def ofType (name : String) (more : List (String × Json) := []) : Json := .obj (("type", .str name) :: more)

/-- The schema of a component, by name. -/
def componentRef : Json := .obj [("$ref", .str "#/definitions/component")]

def document : Json :=
  .obj [
    ("$schema", .str "http://json-schema.org/draft-07/schema#"),
    ("$id", .str "https://uiplan.dev/schemas/0.1.0/plan.schema.json"),
    ("title", .str id),
    ("type", .str "object"),
    ("required", .arr [.str "layout", .str "components"]),
    ("properties", .obj [
      ("layout", ofType "string"),
      ("components", ofType "array" [("maxItems", .ofNat Limits.schemaWidth), ("items", componentRef)])]),
    ("definitions", .obj [
      ("component", ofType "object" [
        ("required", .arr [.str "type"]),
        ("properties", .obj [
          ("type", .obj [("enum", kindNames)]),
          ("props", ofType "object" [("additionalProperties", ofType "string")]),
          ("children", ofType "array" [("items", componentRef)])])])])]

/-! ## Findings -/

/-- How a value breaks the schema. -/
inductive Violation where
  | wrongType (value : Json) (expected : String)
  | noKind (value : Json)
  | missing (member : String)
  | tooMany (value : Json)

def Violation.message : Violation → String
  | .wrongType v t => v.compact ++ " is not of type " ++ (Json.str t).compact
  | .noKind v => v.compact ++ " is not one of " ++ kindNames.compact
  | .missing m => (Json.str m).compact ++ " is a required property"
  | .tooMany v => v.compact ++ " has more than " ++ Text.decimal Limits.schemaWidth ++ " items"

/-- A violation and its place, from the root. -/
structure Finding where
  place : List Segment
  violation : Violation

/-- A member that an object has to have. -/
def require (place : List Segment) (v : Json) (member : String) : List Finding :=
  if (v.get? member).isSome then [] else [⟨place, .missing member⟩]

/-- A value that has to be a text. -/
def checkText (place : List Segment) (v : Json) : List Finding :=
  if v.text?.isSome then [] else [⟨place, .wrongType v "string"⟩]

/-- A value that has to name a kind. -/
def checkKind (place : List Segment) (v : Json) : List Finding :=
  if (v.text?.bind Kind.ofName?).isSome then [] else [⟨place, .noKind v⟩]

/-- A value that has to be an object of texts. -/
def checkProps (place : List Segment) (v : Json) : List Finding :=
  match v with
  | .obj ms => ms.flatMap fun m => checkText (place ++ [.key m.1]) m.2
  | v => [⟨place, .wrongType v "object"⟩]

mutual

/-- A value that has to be a component. -/
def checkComponent (place : List Segment) : Json → List Finding
  | .obj ms => checkMembers place ms ++ require place (.obj ms) "type"
  | .null => [⟨place, .wrongType .null "object"⟩]
  | .bool b => [⟨place, .wrongType (.bool b) "object"⟩]
  | .num n => [⟨place, .wrongType (.num n) "object"⟩]
  | .str s => [⟨place, .wrongType (.str s) "object"⟩]
  | .arr xs => [⟨place, .wrongType (.arr xs) "object"⟩]

def checkMembers (place : List Segment) : List (String × Json) → List Finding
  | [] => []
  | (k, v) :: ms =>
    (if k = "children" then checkChildren (place ++ [.key "children"]) v
      else if k = "props" then checkProps (place ++ [.key "props"]) v
      else if k = "type" then checkKind (place ++ [.key "type"]) v
      else []) ++ checkMembers place ms

/-- A value that has to be a list of components. -/
def checkChildren (place : List Segment) : Json → List Finding
  | .arr xs => checkItems place 0 xs
  | .null => [⟨place, .wrongType .null "array"⟩]
  | .bool b => [⟨place, .wrongType (.bool b) "array"⟩]
  | .num n => [⟨place, .wrongType (.num n) "array"⟩]
  | .str s => [⟨place, .wrongType (.str s) "array"⟩]
  | .obj ms => [⟨place, .wrongType (.obj ms) "array"⟩]

/-- Components from a position on. -/
def checkItems (place : List Segment) (position : Nat) : List Json → List Finding
  | [] => []
  | v :: vs => checkComponent (place ++ [.index position]) v ++ checkItems place (position + 1) vs

end

/-- The width of a list of components at the top of a plan. -/
def checkWidth (place : List Segment) (v : Json) : List Finding :=
  match v with
  | .arr xs => if Limits.schemaWidth < xs.length then [⟨place, .tooMany v⟩] else []
  | _ => []

def checkPlanMembers : List (String × Json) → List Finding
  | [] => []
  | (k, v) :: ms =>
    (if k = "components" then checkChildren [.key "components"] v ++ checkWidth [.key "components"] v
      else if k = "layout" then checkText [.key "layout"] v
      else []) ++ checkPlanMembers ms

/-- A value that has to be a plan, with its members in key order. -/
def checkPlan (v : Json) : List Finding :=
  match v with
  | .obj ms => checkPlanMembers ms ++ require [] v "layout" ++ require [] v "components"
  | v => [⟨[], .wrongType v "object"⟩]

/-- Where a value breaks the schema. -/
def findings (v : Json) : List Finding := checkPlan v.canon

/-! ## Issues -/

/-- The issue of a finding. Its path is that of the pointer to the place. -/
def Finding.toIssue (f : Finding) : Issue where
  kind := "schema_error"
  severity := .error
  path := Path.ofPointer (Path.toPointer f.place)
  message := f.violation.message
  reference := some "json_schema.validation"

def issues (v : Json) : List Issue := (findings v).map Finding.toIssue

def unknown (name : String) : Issue where
  kind := "schema_error"
  severity := .error
  path := .root
  message := "unknown schema id: " ++ name
  reference := some "schema_registry.unknown_schema"

def document? (name : String) : Option Json := if name = id then some document else none

def issuesOf (name : String) (v : Json) : List Issue :=
  if name = id then issues v else [unknown name]

end Wireframe.Schema
