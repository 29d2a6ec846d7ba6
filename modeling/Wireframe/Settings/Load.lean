import Wireframe.Settings.Basic
import Wireframe.Settings.Placeholder
import Wireframe.Settings.Yaml.Basic

/-!
# Settings files

* **From YAML** (`Settings.ofYaml?`): the same members as in other documents.
* **Formats** (`Settings.Format`): the ending of a file's name says how to read it; a name with another ending is read
  both ways.
* **Loading** (`Settings.ofText`): placeholders are replaced, the text is read, and the settings are checked.
-/

namespace Wireframe

def Limits.ofYaml? (v : Yaml) : Option Limits := do
  match ← v.fields [
    "max_components", "max_depth", "explain_max_depth", "max_prompt_chars", "max_explanation_chars"] with
  | [a, b, c, d, e] =>
    let draft : Limits.Draft := {
      maxComponents := ← Yaml.field Yaml.natural? a
      maxDepth := ← Yaml.field Yaml.natural? b
      explainDepth := ← Yaml.field Yaml.natural? c
      maxPrompt := ← Yaml.field Yaml.natural? d
      maxExplanation := ← Yaml.field Yaml.natural? e }
    some draft.finish
  | _ => none

def ModelSettings.ofYaml? (v : Yaml) : Option ModelSettings := do
  match ← v.fields ["url", "model", "timeout_ms"] with
  | [a, b, c] =>
    let draft : ModelSettings.Draft := {
      url := ← Yaml.field Yaml.text? a
      name := ← Yaml.field Yaml.text? b
      timeout := ← Yaml.field Yaml.natural? c }
    some draft.finish
  | _ => none

namespace Settings

def historyOfYaml? (v : Yaml) : Option String := do
  match ← v.fields ["path"] with
  | [a] => some ((← Yaml.field Yaml.text? a).getD ({} : Settings).history)
  | _ => none

def ofYaml? (v : Yaml) : Option Settings := do
  match ← v.fields ["schema", "limits", "upstream", "history"] with
  | [a, b, c, d] =>
    let draft : Draft := {
      schema := ← Yaml.field Yaml.text? a
      limits := ← Yaml.field Limits.ofYaml? b
      model := ← Yaml.field ModelSettings.ofYaml? c
      history := ← Yaml.field historyOfYaml? d }
    some draft.finish
  | _ => none

/-! ## Formats -/

/-- How a settings file is read. -/
inductive Format where
  | json
  | yaml
  | either
deriving DecidableEq

/-- The ending of a name after its last dot; a name that only starts with a dot has none. -/
def extension? (name : List Char) : Option (List Char) :=
  let tail := (name.reverse.takeWhile (· ≠ '.')).reverse
  let stem := name.take (name.length - tail.length - 1)
  if tail.length = name.length ∨ stem = [] then none else some tail

/-- The name of a file without the directories before it and the slashes after it. -/
def baseName (path : String) : List Char :=
  (((path.toList.reverse.dropWhile (· = '/')).takeWhile (· ≠ '/'))).reverse

def Format.ofPath (path : String) : Format :=
  match (extension? (baseName path)).map String.ofList with
  | some "json" => .json
  | some "yaml" => .yaml
  | some "yml" => .yaml
  | _ => .either

/-! ## Loading -/

inductive ParseFailure where
  | placeholder (failure : Placeholder.Failure)
  | json (error : Json.TextError)
  | yaml
  | neither (error : Json.TextError)

def ParseFailure.message : ParseFailure → String
  | placeholder f => f.message
  | json e => "json decode error: " ++ e.message
  | yaml => "yaml decode error:"
  | neither e => e.message

def ofYamlText? (text : String) : Option Settings := (Yaml.ofText? text).bind ofYaml?

def read (format : Format) (text : String) : Except ParseFailure Settings :=
  match format with
  | .json => (Json.decodeText decode text).mapError .json
  | .yaml =>
    match ofYamlText? text with
    | some s => .ok s
    | none => .error .yaml
  | .either =>
    match ofYamlText? text with
    | some s => .ok s
    | none => (Json.decodeText decode text).mapError .neither

inductive LoadFailure where
  | parse (failure : ParseFailure)
  | issues (issues : List Issue)

def LoadFailure.message : LoadFailure → String
  | parse f => "runner config parse failed: " ++ f.message
  | issues is => "runner config validation failed: " ++ String.intercalate "; " (is.map Issue.text)

/-- Settings that pass every check. -/
def checked (s : Settings) : Except LoadFailure Settings :=
  match Issue.sort s.issues with
  | [] => .ok s
  | is => .error (.issues is)

/-- Settings with nothing wrong pass. -/
theorem checked_of_issues {s : Settings} (h : s.issues = []) : s.checked = .ok s := by
  rw [checked, h, Issue.sort, List.mergeSort_nil]

/-- Only settings with nothing wrong pass, and they stay as they are. -/
theorem issues_of_checked {s t : Settings} (h : s.checked = .ok t) : t = s ∧ s.issues = [] := by
  rw [checked] at h
  split at h
  · next hsort =>
    cases h
    have hperm : (Issue.sort s.issues).Perm s.issues := List.mergeSort_perm _ _
    exact ⟨rfl, (hsort ▸ hperm).nil_eq.symm⟩
  · cases h

/-- The settings in the text of a file, under an environment. -/
def ofText (env : String → Option String) (path text : String) : Except LoadFailure Settings :=
  match Placeholder.expand env text with
  | .error f => .error (.parse (.placeholder f))
  | .ok t =>
    match read (.ofPath path) t with
    | .error f => .error (.parse f)
    | .ok s => s.checked

/-- Settings that are loaded have nothing wrong. -/
theorem issues_of_ofText {env : String → Option String} {path text : String} {s : Settings}
    (h : ofText env path text = .ok s) : s.issues = [] := by
  rw [ofText] at h
  split at h
  · cases h
  · split at h
    · cases h
    · obtain ⟨rfl, hissues⟩ := issues_of_checked h
      exact hissues

end Settings

end Wireframe
