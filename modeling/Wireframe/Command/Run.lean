import Wireframe.Command.Basic
import Wireframe.Command.Host
import Wireframe.History
import Wireframe.ModelText
import Wireframe.Plan.Diff
import Wireframe.Plan.Explanation
import Wireframe.Prompt.Request
import Wireframe.Settings.Load

/-!
# Running commands

* **Failures** (`CommandError`): everything that can go wrong in a command, and its wording.
* **Steps** (`loadSettings`, `loadHistory`, `record`, `makePlan`): what several commands have in common.
* **Commands** (`Command.run`): the text that a command shows, or its failure.
-/

namespace Wireframe

/-- Which of two plans is meant. -/
inductive Side where
  | before
  | after
deriving DecidableEq

/-- Why a plan file cannot be used. -/
inductive PlanFileError where
  | file (error : FileError)
  | text (error : Json.TextError)

def PlanFileError.message : PlanFileError → String
  | file e => e.message
  | text e => e.message

/-- Why a history cannot be used. -/
inductive HistoryError where
  | file (path : String) (error : FileError)
  | line (path : String) (bad : History.BadLine)

def HistoryError.message : HistoryError → String
  | file p e => "history io failed `" ++ p ++ "`: " ++ e.message
  | line p b => "history line " ++ Text.decimal b.line ++ " in `" ++ p ++ "` is invalid: " ++ b.error.message

/-- Why settings cannot be used. -/
inductive SettingsError where
  | file (path : String) (error : FileError)
  | content (failure : Settings.LoadFailure)

def SettingsError.message : SettingsError → String
  | file p e => "read runner config failed `" ++ p ++ "`: " ++ e.message
  | content f => f.message

/-- Why a model gives no plan. -/
inductive ModelError where
  | unavailable (url : String)
  | answer (failure : ModelText.Failure)

def ModelError.message : ModelError → String
  | unavailable url => "model endpoint `" ++ url ++ "` unavailable"
  | answer f => f.message

/-- Why a command fails. -/
inductive CommandError where
  | planFile (path : String) (error : PlanFileError)
  | diffFile (side : Side) (path : String) (error : PlanFileError)
  | settings (error : SettingsError)
  | rejected (reason : Rejection)
  | model (error : ModelError)
  | history (error : HistoryError)
  | noVersion (version latest : Nat)

def CommandError.message : CommandError → String
  | planFile p (.file e) => "read file failed `" ++ p ++ "`: " ++ e.message
  | planFile p (.text e) => "plan parse failed `" ++ p ++ "`: " ++ e.message
  | diffFile .before p e => "before plan parse failed: " ++ p ++ ": " ++ e.message
  | diffFile .after p e => "after plan parse failed: " ++ p ++ ": " ++ e.message
  | settings e => e.message
  | rejected r => r.message
  | model e => e.message
  | history e => e.message
  | noVersion v n => "history has no version " ++ Text.decimal v ++ " (latest is " ++ Text.decimal n ++ ")"

/-! ## Reports -/

/-- Where a plan comes from. -/
inductive Source where
  | answer (answer : Classification) (branch : Branch)
  | model

def Source.name : Source → String
  | answer _ b => b.name
  | model => "model"

def Source.classification? : Source → Option Classification
  | answer c _ => some c
  | model => none

/-- A plan that was made, and where it is kept. -/
structure Report where
  source : Source
  version : Option Nat
  plan : Plan

namespace Report

def members (r : Report) : List (String × Json) :=
  [("source", .str r.source.name)] ++
  (r.source.classification?.toList.flatMap fun c => [("intent", .str c.intent.name), ("action", .str c.action.name)]) ++
  [("plan_hash", .str r.plan.fingerprint)] ++
  (r.version.toList.map fun v => ("history_version", .ofNat v)) ++
  [("plan", r.plan.toJson)]

/-- The first twelve bytes of a digest, or the whole if it is shorter or a character stands across the cut. -/
def short (hash : String) : String :=
  go 12 [] hash.toList
where
  /-- Characters taken so far, in reverse, and the bytes that are still to be taken. -/
  go : Nat → List Char → List Char → String
    | 0, acc, _ => String.ofList acc.reverse
    | _ + 1, _, [] => hash
    | n + 1, acc, c :: s => if c.utf8Size ≤ n + 1 then go (n + 1 - c.utf8Size) (c :: acc) s else hash
  termination_by structural _ _ s => s

def header (r : Report) : String :=
  "source=" ++ r.source.name ++
  (match r.source.classification? with
    | some c => " intent=" ++ c.intent.name ++ " action=" ++ c.action.name
    | none => "") ++
  " hash=" ++ short r.plan.fingerprint ++
  (match r.version with
    | some v => " version=" ++ Text.decimal v
    | none => "")

end Report

/-! ## Steps -/

section

variable {m : Type → Type} [Monad m] [Host m]

abbrev Step (m : Type → Type) (α : Type) := ExceptT CommandError m α

def liftResult {ε α : Type} (f : ε → CommandError) : Except ε α → Step m α
  | .ok a => pure a
  | .error e => throw (f e)

def readText (path : String) (f : FileError → CommandError) : Step m String := do
  liftResult f (← (Host.readFile path : m _))

/-- The settings of a run: those of a file, or the usual ones. -/
def loadSettings (path : Option String) : Step m Settings :=
  match path with
  | none => pure {}
  | some p => do
    let text ← readText p fun e => .settings (.file p e)
    let vars ← (Placeholder.names text).mapM fun n => do
      return (n, ← (Host.getVariable n : m _))
    liftResult (fun f => .settings (.content f))
      (Settings.ofText (fun n => (vars.lookup n).getD none) p text)

def loadValue (path : String) : Step m Json := do
  let text ← readText path fun e => .planFile path (.file e)
  liftResult (fun e => .planFile path (.text e)) (Json.parse text)

def loadPlan (side : Side) (path : String) : Step m Plan := do
  let text ← readText path fun e => .diffFile side path (.file e)
  liftResult (fun e => .diffFile side path (.text e)) (Json.decodeText Plan.decode text)

/-- The history in a file; a file that does not exist holds none. -/
def loadHistory (path : String) : Step m History := do
  match ← (Host.readFile path : m _) with
  | .ok text => liftResult (fun b => .history (.line path b)) (History.ofText text)
  | .error .notFound => pure ⟨[]⟩
  | .error e => throw (.history (.file path e))

def appendHistory (path : String) (h : History) (prompt : String) (p : Plan) : Step m History := do
  liftResult (fun e => .history (.file path e)) (← (Host.appendFile path (h.next prompt p).line : m _))
  return h.append prompt p

def askPlan (s : Settings) (prompt : String) : Step m Plan := do
  match ← (Host.askModel s.model.url s.model.name (ModelText.modelPrompt prompt) : m _) with
  | none => throw (.model (.unavailable s.model.url))
  | some text => liftResult (fun f => .model (.answer f)) (ModelText.planOf text s.limits)

/-- The plan that a prompt asks for, and where it comes from. -/
def answerPlan (s : Settings) (o : PlanOptions) : Step m (Source × Plan) :=
  if o.model then do
    liftResult .rejected (Prompt.check o.prompt s.limits)
    return (.model, ← askPlan s o.prompt)
  else do
    let last ← o.previous.mapM loadValue
    let a ← liftResult .rejected (Request.run ⟨o.prompt, last⟩ s.limits)
    return (.answer a.classification a.branch, a.plan)

/-- The file of the history that a plan goes to: the given one, or that of a settings file. -/
def historyTarget (o : PlanOptions) (s : Settings) : Option String :=
  o.history.or (o.config.map fun _ => s.history)

/-- A plan that a prompt asks for, kept in the history. -/
def makePlan (s : Settings) (o : PlanOptions) : Step m Report := do
  let (source, plan) ← answerPlan s o
  match historyTarget o s with
  | none => return ⟨source, none, plan⟩
  | some path =>
    let h ← loadHistory path
    let _ ← appendHistory path h o.prompt plan
    return ⟨source, some (h.next o.prompt plan).version, plan⟩

def openHistory (history config : Option String) : Step m (String × History) := do
  let path ← match history with
    | some p => pure p
    | none => Settings.history <$> loadSettings config
  return (path, ← loadHistory path)

/-! ## Commands -/

def historyText (path : String) (h : History) : String :=
  if h.entries.isEmpty then "history is empty: " ++ path
  else
    String.intercalate "\n" (h.entries.map fun e =>
      Text.decimal e.version ++ " " ++ Report.short e.hash ++ " " ++ e.prompt)

def historyJson (h : History) : Json :=
  .arr (h.entries.map fun e =>
    .obj [("version", .ofNat e.version), ("prompt", .str e.prompt), ("plan_hash", .str e.hash)])

/-- The text that a command shows. -/
def Command.run : Command → Step m String
  | plan o => do
    let s ← loadSettings o.config
    let r ← makePlan s o
    match o.format with
    | .text => return r.header ++ "\n" ++ r.plan.toJson.pretty
    | .json => return (Json.obj r.members).pretty
  | generate file asModule config => do
    let s ← loadSettings config
    let v ← loadValue file
    if asModule then
      let p ← liftResult .rejected (Plan.accept v s.limits)
      return p.asModule
    else liftResult .rejected (Plan.markupOf v s.limits)
  | explain file prompt config => do
    let s ← loadSettings config
    liftResult .rejected (Prompt.check prompt s.limits)
    let v ← loadValue file
    liftResult .rejected (Plan.explanationOf prompt v s.limits)
  | build o asModule => do
    let s ← loadSettings o.config
    let r ← makePlan s o
    let markup := if asModule then r.plan.asModule else r.plan.markup
    let explanation ← liftResult .rejected (Plan.explain o.prompt r.plan s.limits)
    match o.format with
    | .text =>
      return r.header ++ "\n\n" ++ String.ofList (Text.trimEnd markup.toList) ++ "\n\n" ++ explanation
    | .json =>
      return (Json.obj (r.members ++ [("markup", .str markup), ("explanation", .str explanation)])).pretty
  | diff before after format => do
    let p ← loadPlan .before before
    let q ← loadPlan .after after
    match format with
    | .text => return p.diffText q
    | .json => return (p.diff q).toJson.pretty
  | historyList history config format => do
    let (path, h) ← openHistory history config
    match format with
    | .text => return historyText path h
    | .json => return (historyJson h).pretty
  | historyShow version history config => do
    let (_, h) ← openHistory history config
    match h.get? version with
    | some e => return e.plan.toJson.pretty
    | none => throw (.noVersion version h.entries.length)

end

end Wireframe
