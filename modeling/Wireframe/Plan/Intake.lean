import Wireframe.Plan.Complete
import Wireframe.Plan.Crop
import Wireframe.Plan.Salvage
import Wireframe.Plan.Schema

/-!
# Taking plans in

* **Refining** (`Plan.refine`): salvaged, completed and cropped.
* **Acceptance** (`Plan.accept`): a value that has to keep the schema, refined.
* **Recovery** (`Plan.recover`): a value that is refined first and has to keep the schema then.
* **Rejections** (`Rejection`): why a plan or a prompt is turned down.
-/

namespace Wireframe

/-- Why a plan or a prompt is turned down. -/
inductive Rejection where
  | invalid (issue : Issue)
  | emptyPrompt
  | promptTooLong (length max : Nat)
  | explanationTooLong (length max : Nat)

def Rejection.message : Rejection → String
  | invalid i => "plan validation failed: " ++ i.text
  | emptyPrompt => "prompt is empty"
  | promptTooLong n m => "prompt is " ++ Text.decimal n ++ " characters, limit is " ++ Text.decimal m
  | explanationTooLong n m => "explanation is " ++ Text.decimal n ++ " characters, limit is " ++ Text.decimal m

namespace Plan

/-- The first issue of a value under the schema. -/
def check (v : Json) : Except Rejection Unit :=
  match Schema.issues v with
  | [] => .ok ()
  | i :: _ => .error (.invalid i)

/-- A salvaged plan, completed and cropped. -/
def restore (v : Json) (l : Limits) : Plan := (salvage v).complete.crop l

/-- The plan of a value that keeps the schema. -/
def accept (v : Json) (l : Limits) : Except Rejection Plan := do
  check v
  return restore v l

/-- The plan of a value that need not keep the schema, if the plan itself does. -/
def recover (v : Json) (l : Limits) : Except Rejection Plan := do
  check (restore v l).toValue
  return restore v l

/-- A plan taken in again under some limits. -/
def refine (p : Plan) (l : Limits) : Plan := restore p.toValue l

end Plan

end Wireframe
