import Wireframe.Json.Decode

/-!
# Bounds on plans

* **Limits** (`Limits`): how large a plan, a prompt and an explanation may be in one run.
* **Fixed bounds** (`salvageDepth`, `schemaWidth`, `propLength`): how deep untrusted plans are read, how many
  components the schema allows, and how long a text in a component may be.

A component at the top of a plan has depth 0.
-/

namespace Wireframe

/-- The bounds of one run. -/
structure Limits where
  /-- Components at the top of a plan. -/
  maxComponents : Nat := 20
  /-- The depth of the deepest component. -/
  maxDepth : Nat := 3
  /-- The depth to which a plan is explained. -/
  explainDepth : Nat := 5
  /-- Characters of a prompt. -/
  maxPrompt : Nat := 1000
  /-- Characters of an explanation. -/
  maxExplanation : Nat := 5000
deriving DecidableEq

namespace Limits

/-- Components of an untrusted plan that stand deeper are dropped. -/
def salvageDepth : Nat := 5

/-- A plan with more components at its top breaks the schema. -/
def schemaWidth : Nat := 30

/-- Texts of untrusted components are cut after this many characters. -/
def propLength : Nat := 100

/-- The greatest number that a count of 64 bits can be. -/
def greatestCount : Nat := Nat.pow 2 64 - 1

def toJson (l : Limits) : Json :=
  .obj [("max_components", .ofNat l.maxComponents), ("max_depth", .ofNat l.maxDepth),
    ("explain_max_depth", .ofNat l.explainDepth), ("max_prompt_chars", .ofNat l.maxPrompt),
    ("max_explanation_chars", .ofNat l.maxExplanation)]

/-- Limits whose fields are read one by one. -/
structure Draft where
  maxComponents : Option Nat := none
  maxDepth : Option Nat := none
  explainDepth : Option Nat := none
  maxPrompt : Option Nat := none
  maxExplanation : Option Nat := none

/-- The limits of a draft, with the usual bounds where it has none. -/
def Draft.finish (d : Draft) : Limits :=
  let usual : Limits := {}
  { maxComponents := d.maxComponents.getD usual.maxComponents
    maxDepth := d.maxDepth.getD usual.maxDepth
    explainDepth := d.explainDepth.getD usual.explainDepth
    maxPrompt := d.maxPrompt.getD usual.maxPrompt
    maxExplanation := d.maxExplanation.getD usual.maxExplanation }

def record : Json.Record Json.Doc Draft Limits where
  name := "struct Limits"
  fields := [
    .of "max_components" true Draft.maxComponents (fun b d => { d with maxComponents := some b }) Json.size,
    .of "max_depth" true Draft.maxDepth (fun b d => { d with maxDepth := some b }) Json.size,
    .of "explain_max_depth" true Draft.explainDepth (fun b d => { d with explainDepth := some b }) Json.size,
    .of "max_prompt_chars" true Draft.maxPrompt (fun b d => { d with maxPrompt := some b }) Json.size,
    .of "max_explanation_chars" true Draft.maxExplanation (fun b d => { d with maxExplanation := some b }) Json.size]
  empty := {}
  finish d := .ok d.finish

def decode : Json.Decoder Limits := record.decode

end Limits

end Wireframe
