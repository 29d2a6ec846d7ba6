import Wireframe.Limits
import Wireframe.Issue
import Wireframe.Text.Blank

/-!
# Settings

* **Settings** (`Settings`): the limits, the model to ask, and the file of the history.
* **From documents** (`Settings.decode`): every member may be missing.
* **Checks** (`Settings.issues`): what settings must not be.
-/

namespace Wireframe

/-- The language model to ask. -/
structure ModelSettings where
  url : String := "http://localhost:11434/api/generate"
  name : String := "mistral"
  timeout : Nat := 20000
deriving DecidableEq

structure Settings where
  schema : String := "uiplan-runner/0.0.1"
  limits : Limits := {}
  model : ModelSettings := {}
  /-- The file that holds the history. -/
  history : String := "plan-history.jsonl"
deriving DecidableEq

/-! ## From documents -/

namespace ModelSettings

/-- The settings of a model whose fields are read one by one. -/
structure Draft where
  url : Option String := none
  name : Option String := none
  timeout : Option Nat := none

/-- The settings of a draft, with the usual ones where it has none. -/
def Draft.finish (d : Draft) : ModelSettings :=
  let usual : ModelSettings := {}
  ⟨d.url.getD usual.url, d.name.getD usual.name, d.timeout.getD usual.timeout⟩

def record : Json.Record Json.Doc Draft ModelSettings where
  name := "struct UpstreamConfig"
  fields := [
    .of "url" true Draft.url (fun b d => { d with url := some b }) Json.string,
    .of "model" true Draft.name (fun b d => { d with name := some b }) Json.string,
    .of "timeout_ms" true Draft.timeout (fun b d => { d with timeout := some b }) (Json.natAs "u64")]
  empty := {}
  finish d := .ok d.finish

end ModelSettings

namespace Settings

def historyRecord : Json.Record Json.Doc (Option String) String where
  name := "struct HistoryConfig"
  fields := [.of "path" true id (fun b _ => some b) (Json.stringAs "path string")]
  empty := none
  finish d := .ok (d.getD ({} : Settings).history)

structure Draft where
  schema : Option String := none
  limits : Option Limits := none
  model : Option ModelSettings := none
  history : Option String := none

def Draft.finish (d : Draft) : Settings :=
  let usual : Settings := {}
  ⟨d.schema.getD usual.schema, d.limits.getD usual.limits, d.model.getD usual.model, d.history.getD usual.history⟩

def record : Json.Record Json.Doc Draft Settings where
  name := "struct RunnerConfig"
  fields := [
    .of "schema" true Draft.schema (fun b d => { d with schema := some b }) Json.string,
    .of "limits" true Draft.limits (fun b d => { d with limits := some b }) Limits.decode,
    .of "upstream" true Draft.model (fun b d => { d with model := some b }) ModelSettings.record.decode,
    .of "history" true Draft.history (fun b d => { d with history := some b }) historyRecord.decode]
  empty := {}
  finish d := .ok d.finish

def decode : Json.Decoder Settings := record.decode

def toJson (s : Settings) : Json :=
  .obj [("schema", .str s.schema), ("limits", s.limits.toJson),
    ("upstream", .obj [
      ("url", .str s.model.url), ("model", .str s.model.name), ("timeout_ms", .ofNat s.model.timeout)]),
    ("history", .obj [("path", .str s.history)])]

/-! ## Checks -/

/-- Something that settings must not be. -/
def issue (reference : String) (keys : List String) (message : String) : Issue where
  kind := "runner_config_error"
  severity := .error
  path := ⟨keys.map .key⟩
  message := message
  reference := some reference

/-- An issue unless a condition holds. -/
def demand (good : Bool) (i : Issue) : List Issue := if good then [] else [i]

/-- Whether a model can be asked under an address. -/
def isWebAddress (url : String) : Bool :=
  "http://".toList.isPrefixOf url.toList || "https://".toList.isPrefixOf url.toList

/-- A limit that has to be positive. -/
def positive (name : String) (n : Nat) : List Issue :=
  demand (0 < n) (issue "runner.config.limits.positive" ["limits", name] ("limits." ++ name ++ " must be > 0"))

def issues (s : Settings) : List Issue :=
  demand (s.schema == ({} : Settings).schema)
    (issue "runner.config.schema" ["schema"]
      ("unsupported runner config schema `" ++ s.schema ++ "` (expected `" ++ ({} : Settings).schema ++ "`)")) ++
  positive "max_components" s.limits.maxComponents ++
  positive "max_depth" s.limits.maxDepth ++
  positive "explain_max_depth" s.limits.explainDepth ++
  positive "max_prompt_chars" s.limits.maxPrompt ++
  positive "max_explanation_chars" s.limits.maxExplanation ++
  demand (s.limits.maxComponents ≤ Limits.schemaWidth)
    (issue "runner.config.limits.max_components" ["limits", "max_components"]
      ("limits.max_components must be <= " ++ Text.decimal Limits.schemaWidth)) ++
  demand (isWebAddress s.model.url)
    (issue "runner.config.upstream.url" ["upstream", "url"] "upstream.url must be http(s)") ++
  demand (!Text.allBlank s.model.name)
    (issue "runner.config.upstream.model" ["upstream", "model"] "upstream.model must not be empty") ++
  demand (0 < s.model.timeout)
    (issue "runner.config.upstream.timeout" ["upstream", "timeout_ms"] "upstream.timeout_ms must be > 0")

end Settings

end Wireframe
