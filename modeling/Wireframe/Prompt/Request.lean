import Wireframe.Plan.Intake
import Wireframe.Prompt.Edit
import Wireframe.Prompt.Template
import Wireframe.Text.Blank

/-!
# Requests

* **Answers** (`Answer`, `Prompt.answerAs`): a prompt is answered with the last plan and one more button, with the last
  plan changed, or with the plan of its intent.
* **Requests** (`Request`, `Request.runBy`): the prompt is checked first, then the last plan; the answer is refined.

Both take what the prompt is read as from outside; `Prompt.answer` and `Request.run` read it by the usual rules.
-/

namespace Wireframe

/-- Where the plan of an answer comes from. -/
inductive Branch where
  | built
  | edited
  | forgotPassword
deriving DecidableEq

def Branch.name : Branch → String
  | built => "built"
  | edited => "edited"
  | forgotPassword => "forgot_password"

/-- A plan in answer to a prompt. -/
structure Answer where
  classification : Classification
  branch : Branch
  plan : Plan

/-- The plan in answer to a prompt that is read as `c`. -/
def Prompt.answerAs (c : Classification) (prompt : String) (last : Option Plan) : Answer :=
  match last with
  | none => ⟨c, .built, c.intent.plan⟩
  | some p =>
    if c.intent = .login ∧ mentions (lowered prompt) forgotWord = true then
      ⟨c, .forgotPassword, p.addForgotPassword⟩
    else if c.action = .edit then ⟨c, .edited, p.edit prompt⟩
    else ⟨c, .built, c.intent.plan⟩

def Prompt.answer (prompt : String) (last : Option Plan) : Answer := answerAs (classify prompt) prompt last

/-- A prompt has to say something and to keep its bound. -/
def Prompt.check (prompt : String) (l : Limits) : Except Rejection Unit :=
  if Text.allBlank prompt then .error .emptyPrompt
  else if l.maxPrompt < prompt.length then .error (.promptTooLong prompt.length l.maxPrompt)
  else .ok ()

/-- A prompt with the value of the last plan, if there is one. -/
structure Request where
  prompt : String
  last : Option Json

namespace Request

/-- The answer to a request whose prompt is read by `read`. -/
def runBy (read : String → Classification) (r : Request) (l : Limits) : Except Rejection Answer := do
  Prompt.check r.prompt l
  let last ← r.last.mapM (Plan.accept · l)
  let a := Prompt.answerAs (read r.prompt) r.prompt last
  return { a with plan := a.plan.refine l }

def run (r : Request) (l : Limits) : Except Rejection Answer := runBy Prompt.classify r l

structure Draft where
  prompt : Option String := none
  last : Option (Option Json) := none

def record : Json.Record Json.Doc Draft Request where
  name := "struct PlanRequest"
  fields := [
    .of "user_prompt" false Draft.prompt (fun b d => { d with prompt := some b }) Json.string,
    .of "previous_plan" true Draft.last (fun b d => { d with last := some b }) (Json.optional Json.anything)]
  empty := {}
  finish d :=
    match d.prompt with
    | some p => .ok ⟨p, d.last.getD none⟩
    | none => .error (.missing "user_prompt")

def decode : Json.Decoder Request := record.decode

def toJson (r : Request) : Json :=
  .obj (("user_prompt", .str r.prompt) :: r.last.toList.map fun v => ("previous_plan", v))

end Request

end Wireframe
