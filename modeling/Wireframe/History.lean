import Wireframe.Json.Decode
import Wireframe.Plan.Decode
import Wireframe.Text.Lines

/-!
# The history of plans

* **Entries** (`Entry`): a plan with its prompt, its version and its digest, one line of text each.
* **Reading** (`History.ofText`): every line that is not blank is an entry.
* **Appending** (`History.append`): the next version is one more than the number of entries.
-/

namespace Wireframe

namespace History

/-- A plan that was made, with the prompt that asked for it. -/
structure Entry where
  version : Nat
  prompt : String
  hash : String
  plan : Plan

def Entry.toJson (e : Entry) : Json :=
  .obj [("version", .ofNat e.version), ("prompt", .str e.prompt), ("plan_hash", .str e.hash), ("plan", e.plan.toJson)]

/-- The line of an entry, with its line feed. -/
def Entry.line (e : Entry) : String := e.toJson.compact ++ "\n"

structure Draft where
  version : Option Nat := none
  prompt : Option String := none
  hash : Option String := none
  plan : Option Plan := none

def Draft.finish (d : Draft) : Except Json.Mismatch Entry :=
  match d with
  | ⟨none, _, _, _⟩ => .error (.missing "version")
  | ⟨_, none, _, _⟩ => .error (.missing "prompt")
  | ⟨_, _, none, _⟩ => .error (.missing "plan_hash")
  | ⟨_, _, _, none⟩ => .error (.missing "plan")
  | ⟨some v, some p, some h, some q⟩ => .ok ⟨v, p, h, q⟩

def record : Json.Record Json.Doc Draft Entry where
  name := "struct HistoryEntry"
  fields := [
    .of "version" false Draft.version (fun b d => { d with version := some b }) Json.size,
    .of "prompt" false Draft.prompt (fun b d => { d with prompt := some b }) Json.string,
    .of "plan_hash" false Draft.hash (fun b d => { d with hash := some b }) Json.string,
    .of "plan" false Draft.plan (fun b d => { d with plan := some b }) Plan.decode]
  empty := {}
  finish := Draft.finish

def Entry.decode : Json.Decoder Entry := record.decode

def Entry.ofLine (line : List Char) : Except Json.TextError Entry :=
  Json.decodeText Entry.decode (String.ofList (Text.trimEnd line))

/-- A line that is no entry, counted from 1. -/
structure BadLine where
  line : Nat
  error : Json.TextError

end History

/-- The entries of a history, oldest first. -/
structure History where
  entries : List History.Entry

namespace History

/-- The entries of numbered lines; blank lines are passed over. -/
def readLines : Nat → List (List Char) → Except BadLine (List Entry)
  | _, [] => .ok []
  | n, l :: ls =>
    if l.all Text.isBlank then readLines (n + 1) ls
    else
      match Entry.ofLine l with
      | .error e => .error ⟨n, e⟩
      | .ok e =>
        match readLines (n + 1) ls with
        | .error b => .error b
        | .ok es => .ok (e :: es)

def ofText (text : String) : Except BadLine History := (readLines 1 (Text.lines text.toList)).map History.mk

def next (h : History) (prompt : String) (p : Plan) : Entry := ⟨h.entries.length + 1, prompt, p.fingerprint, p⟩

def append (h : History) (prompt : String) (p : Plan) : History := ⟨h.entries ++ [h.next prompt p]⟩

/-- The entry at a version, counted from 1. -/
def get? (h : History) (version : Nat) : Option Entry := if version = 0 then none else h.entries[version - 1]?

def latest? (h : History) : Option Entry := h.entries.getLast?

end History

end Wireframe
