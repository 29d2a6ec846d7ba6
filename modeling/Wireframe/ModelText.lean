import Wireframe.Plan.Intake
import Wireframe.Json.Decode

/-!
# Plans from a language model

* **The question** (`modelPrompt`): what the model is told around a prompt.
* **The answer** (`objectSpan?`, `readObject`): the text from the first opening brace to the last closing one.
* **The plan** (`planOf`): the object gets the members it lacks and is recovered as a plan.
-/

namespace Wireframe.ModelText

/-- What the model is told. -/
def modelPrompt (prompt : String) : String :=
  "You are a UI planner. Reply with ONLY a JSON object and no other text.\n" ++
  "The object has this shape:\n" ++
  "\x7b\"layout\": string, \"components\": [\x7b\"type\": \"Card\"|\"Input\"|\"Button\"|\"Modal\", " ++
  "\"props\": \x7b...\x7d, \"children\": [...]\x7d]\x7d\n" ++
  "Card and Modal use a \"title\" prop, Input and Button use a \"label\" prop. All prop values are strings.\n" ++
  "User request: " ++ prompt

/-- Why an answer gives no plan. -/
inductive Failure where
  | noObject
  | invalidJson (error : Json.TextError)
  | rejected (reason : Rejection)

def Failure.message : Failure → String
  | noObject => "model returned no JSON object"
  | invalidJson e => "model returned invalid JSON: " ++ e.message
  | rejected r => "model plan rejected: " ++ r.message

/-- The text up to its last closing brace, if it has one. -/
def toLastBrace? : List Char → Option (List Char)
  | [] => none
  | c :: s =>
    match toLastBrace? s with
    | some t => some (c :: t)
    | none => if c = '}' then some [c] else none

/-- The text from the first opening brace to the last closing brace after it. -/
def objectSpan? (s : List Char) : Option (List Char) := toLastBrace? (s.dropWhile (· ≠ '{'))

def readObject (text : String) : Except Failure Json :=
  match objectSpan? text.toList with
  | none => .error .noObject
  | some s =>
    match Json.parse (String.ofList s) with
    | .ok v => .ok v
    | .error e => .error (.invalidJson e)

/-- The members of a plan value, with `key` set to `fallback` unless its value is of the right type. -/
def require (key : String) (good : Json → Bool) (fallback : Json) (ms : List (String × Json)) : List (String × Json) :=
  if (ms.lookup key).any good then ms else Members.insert key fallback ms

/-- An object with the members that every plan has. -/
def completeObject (v : Json) : Json :=
  .obj (require "layout" (·.text?.isSome) (.str Plan.defaultLayout)
    (require "components" (·.items?.isSome) (.arr []) (v.members?.getD [])))

def planOf (text : String) (l : Limits) : Except Failure Plan := do
  let v ← readObject text
  match Plan.recover (completeObject v) l with
  | .ok p => return p
  | .error r => .error (.rejected r)

end Wireframe.ModelText
