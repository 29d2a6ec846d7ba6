import Wireframe.Path

/-!
# Issues

* **Issues** (`Issue`): what is wrong with a document, how badly, and where.
* **Order** (`Issue.compare`, `Issue.sort`): by severity, kind, path and message; equal issues keep their order.
-/

namespace Wireframe

inductive Severity where
  | error
  | warning
deriving DecidableEq

/-- Something wrong with a document. -/
structure Issue where
  kind : String
  severity : Severity
  path : Path
  message : String
  /-- The rule that the document breaks. -/
  reference : Option String
deriving DecidableEq

namespace Severity

def name : Severity → String
  | error => "error"
  | warning => "warning"

/-- Errors come before warnings. -/
def compare : Severity → Severity → Ordering
  | error, error => .eq
  | error, warning => .lt
  | warning, error => .gt
  | warning, warning => .eq

def decode : Json.Decoder Severity := (Json.names [error, warning] name).decode

end Severity

namespace Issue

/-- Issues are ordered by severity, then kind, then path, then message. -/
def compare (a b : Issue) : Ordering :=
  (a.severity.compare b.severity).then
    ((Ord.compare a.kind b.kind).then ((a.path.compare b.path).then (Ord.compare a.message b.message)))

/-- Issues in order; those that compare as equal stay as they were. -/
def sort (issues : List Issue) : List Issue := issues.mergeSort fun a b => (a.compare b).isLE

def text (i : Issue) : String := i.path.text ++ ": " ++ i.message

def toJson (i : Issue) : Json :=
  .obj ([("kind", .str i.kind), ("severity", .str i.severity.name), ("field_path", i.path.toJson),
    ("message", .str i.message)] ++ i.reference.toList.map fun r => ("reference", .str r))

structure Draft where
  kind : Option String := none
  severity : Option Severity := none
  path : Option Path := none
  message : Option String := none
  reference : Option (Option String) := none

/-- The issue of a draft; the reference alone may be missing. -/
def Draft.finish (d : Draft) : Except Json.Mismatch Issue :=
  match d with
  | ⟨none, _, _, _, _⟩ => .error (.missing "kind")
  | ⟨_, none, _, _, _⟩ => .error (.missing "severity")
  | ⟨_, _, none, _, _⟩ => .error (.missing "field_path")
  | ⟨_, _, _, none, _⟩ => .error (.missing "message")
  | ⟨some k, some s, some p, some m, r⟩ => .ok ⟨k, s, p, m, r.getD none⟩

def record : Json.Record Json.Doc Draft Issue where
  name := "struct StructuredIssue"
  fields := [
    .of "kind" false Draft.kind (fun b d => { d with kind := some b }) Json.string,
    .of "severity" false Draft.severity (fun b d => { d with severity := some b }) Severity.decode,
    .of "field_path" false Draft.path (fun b d => { d with path := some b }) Path.decode,
    .of "message" false Draft.message (fun b d => { d with message := some b }) Json.string,
    .of "reference" false Draft.reference (fun b d => { d with reference := some b }) (Json.optional Json.string)]
  empty := {}
  finish := Draft.finish

def decode : Json.Decoder Issue := record.decode

end Issue

end Wireframe
