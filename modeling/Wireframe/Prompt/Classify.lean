import Wireframe.Prompt.Intent
import Wireframe.Text.Casing
import Wireframe.Text.Lines
import Wireframe.Text.Search

/-!
# Reading prompts

* **Rules** (`Rule`): words for an intent; the first rule with a word in the prompt decides (`intentOf`).
* **Actions** (`actionOf`): a prompt with one of the edit words changes the last plan.
* **Classification** (`classify`): both read the prompt in lower case.
* **Patterns** (`patternWords?`, `readRules?`): rules may also be given as words with bars between them.
-/

namespace Wireframe

namespace Prompt

/-- The lower-case form of a prompt. -/
def lowered (prompt : String) : List Char := Text.lower prompt.toList

/-- Whether a word stands in a lowered prompt. -/
def mentions (low : List Char) (word : String) : Bool := Text.occurs word.toList low

/-- Words that point to an intent. -/
structure Rule where
  intent : Intent
  words : List String

def Rule.applies (r : Rule) (low : List Char) : Bool := r.words.any (mentions low)

/-- The intent of the first rule that applies. -/
def intentOf (rules : List Rule) (low : List Char) : Intent :=
  match rules.find? (·.applies low) with
  | some r => r.intent
  | none => .default

/-- The words of each intent, in the order in which they are tried. -/
def rules : List Rule := [
  ⟨.login, ["login", "sign in", "signin", "authentication", "auth"]⟩,
  ⟨.register, ["register", "signup", "sign up", "create account"]⟩,
  ⟨.form, ["contact", "feedback", "form", "apply", "submit details"]⟩,
  ⟨.dashboard, ["dashboard", "admin panel", "analytics", "control panel"]⟩,
  ⟨.search, ["search", "filter", "find", "lookup"]⟩,
  ⟨.profile, ["profile", "account details", "user info"]⟩,
  ⟨.settings, ["settings", "preferences", "change password"]⟩,
  ⟨.list, ["table", "list", "records", "data list", "users list"]⟩,
  ⟨.landing, ["landing", "homepage", "home page", "marketing page"]⟩,
  ⟨.modal, ["popup", "modal", "dialog"]⟩,
  ⟨.contact, ["contact us", "support page", "help form"]⟩]

def editWords : List String := ["add", "remove", "change", "update", "make", "replace"]

/-- A prompt with an edit word asks for a change. -/
def actionOf (low : List Char) : Action := if editWords.any (mentions low) then .edit else .create

/-- What a prompt asks for under some rules. -/
def classifyBy (rules : List Rule) (prompt : String) : Classification :=
  ⟨actionOf (lowered prompt), intentOf rules (lowered prompt)⟩

def classify (prompt : String) : Classification := classifyBy rules prompt

/-- Characters that would group, repeat or choose within a pattern. -/
def patternSigns : List Char := ['(', ')', '[', '*', '+', '?']

/-- The words of a pattern, which have bars between them; a pattern with other signs has none. -/
def patternWords? (pattern : String) : Option (List String) :=
  if pattern.toList.any (patternSigns.contains ·) then none
  else some ((Text.splitOn '|' pattern.toList).map String.ofList)

/-- The rules that intents with patterns make, if every pattern has words. -/
def readRules? (sources : List (Intent × String)) : Option (List Rule) :=
  sources.mapM fun p => (patternWords? p.2).map (Rule.mk p.1)

end Prompt

end Wireframe
