import Wireframe.Plan.Basic
import Wireframe.Text.Lines
import Wireframe.Text.Natural

/-!
# Differences between plans

* **Ways** (`Way`): the positions that lead to a component; they are ordered position by position.
* **Indexes** (`Plan.index`): the components of a plan by their ways, in the order of the ways. They are gathered from a
  stack of components that are still to be looked into (`Component.gather`).
* **Differences** (`Plan.diff`): the nodes whose way is in one index only, and those that differ in kind or texts.
* **Reports** (`Diff.toJson`, `Diff.text`).
-/

namespace Wireframe

/-- The positions that lead from the top of a plan to a component. -/
abbrev Way := List Nat

def Way.text (w : Way) : String :=
  String.ofList (Text.joinWith ['.'] (w.map (Nat.toDigits 10)))

/-- The order of ways: position by position, and a way before those that go on from it. -/
def Way.notAfter : Way → Way → Bool
  | [], _ => true
  | _ :: _, [] => false
  | i :: v, j :: w => if i = j then Way.notAfter v w else i < j

/-! ## Indexes -/

/-- Components by their ways. -/
abbrev Index := List (Way × Component)

namespace Component

/-- Components that stand side by side after a way, from a position on, by their own ways. -/
def numbered (way : Way) (position : Nat) : List Component → Index
  | [] => []
  | c :: cs => (way ++ [position], c) :: numbered way (position + 1) cs

theorem map_snd_numbered (way : Way) (position : Nat) (cs : List Component) :
    (numbered way position cs).map Prod.snd = cs := by
  induction cs generalizing position with
  | nil => rfl
  | cons c cs ih => rw [numbered, List.map_cons, ih]

/-- The components that a stack leads to: the one on top is taken, and what is inside it is put on top of the others,
the last one uppermost. -/
def gather : Index → Index
  | [] => []
  | n :: stack => n :: gather ((numbered n.1 0 n.2.children).reverse ++ stack)
termination_by stack => countAll (stack.map Prod.snd)
decreasing_by
  obtain ⟨w, k, p, cs⟩ := n
  rw [List.map_append, List.map_reverse, map_snd_numbered, countAll_append, countAll_reverse, List.map_cons, countAll,
    count]
  show countAll cs + countAll (stack.map Prod.snd) < 1 + countAll cs + countAll (stack.map Prod.snd)
  omega

end Component

/-- The components of a plan by their ways, in the order of the ways. -/
def Plan.index (p : Plan) : Index :=
  (Component.gather (Component.numbered [] 0 p.components).reverse).mergeSort fun m n => m.1.notAfter n.1

/-- What is shown of a node. -/
structure NodeInfo where
  way : Way
  kind : Kind
  label : Option String
deriving DecidableEq

/-- What is shown of a component at the end of a way. -/
def NodeInfo.of (way : Way) (c : Component) : NodeInfo := ⟨way, c.kind, c.label?⟩

/-- In what two components differ. -/
inductive Change where
  | kind
  | props
deriving DecidableEq

def Change.name : Change → String
  | kind => "kind"
  | props => "props"

/-- In what two components differ, apart from those inside. -/
def Component.changes (c d : Component) : List Change :=
  (if c.kind = d.kind then [] else [.kind]) ++ (if c.props = d.props then [] else [.props])

/-- A node that both plans have, with differences. -/
structure ChangedNode where
  way : Way
  changes : List Change
  before : NodeInfo
  after : NodeInfo
deriving DecidableEq

/-- The differences between two plans. -/
structure Diff where
  beforeHash : String
  afterHash : String
  layoutChanged : Bool
  added : List NodeInfo
  removed : List NodeInfo
  changed : List ChangedNode
deriving DecidableEq

/-- The nodes whose ways are not in another index. -/
def Index.without (xs ys : Index) : List NodeInfo :=
  (xs.filter fun n => (ys.lookup n.1).isNone).map fun n => .of n.1 n.2

/-- The nodes whose ways are in another index too, with a component that differs. -/
def Index.changed (xs ys : Index) : List ChangedNode :=
  xs.filterMap fun n =>
    match ys.lookup n.1 with
    | none => none
    | some d => if (n.2.changes d).isEmpty then none else some ⟨n.1, n.2.changes d, .of n.1 n.2, .of n.1 d⟩

/-- The differences between two plans. -/
def Plan.diff (p q : Plan) : Diff :=
  let before := p.index
  let after := q.index
  { beforeHash := p.fingerprint
    afterHash := q.fingerprint
    layoutChanged := p.layout ≠ q.layout
    added := after.without before
    removed := before.without after
    changed := before.changed after }

/-! ## Reports -/

def NodeInfo.toJson (n : NodeInfo) : Json :=
  .obj [("path", .str n.way.text), ("kind", .str n.kind.name),
    ("label", match n.label with
      | some s => .str s
      | none => .null)]

def ChangedNode.toJson (n : ChangedNode) : Json :=
  .obj [("path", .str n.way.text), ("changes", .arr (n.changes.map fun c => .str c.name)),
    ("before", n.before.toJson), ("after", n.after.toJson)]

def Diff.toJson (d : Diff) : Json :=
  .obj [
    ("summary", .obj [("added", .ofNat d.added.length), ("removed", .ofNat d.removed.length),
      ("changed", .ofNat d.changed.length)]),
    ("before_hash", .str d.beforeHash), ("after_hash", .str d.afterHash), ("layout_changed", .bool d.layoutChanged),
    ("added", .arr (d.added.map NodeInfo.toJson)), ("removed", .arr (d.removed.map NodeInfo.toJson)),
    ("changed", .arr (d.changed.map ChangedNode.toJson))]

def NodeInfo.line (n : NodeInfo) : String :=
  "- path=" ++ n.way.text ++ " kind=" ++ n.kind.name ++ " label=" ++ n.label.getD "-"

def ChangedNode.line (n : ChangedNode) : String :=
  "- path=" ++ n.way.text ++ " changes=" ++ String.intercalate "," (n.changes.map Change.name)

/-- Lines under a heading, if there are any. -/
def underHeading (heading : String) (lines : List String) : List String :=
  if lines.isEmpty then [] else heading :: lines

def Plan.diffText (p q : Plan) : String :=
  let d := p.diff q
  String.intercalate "\n" (
    ["plan diff: added=" ++ Text.decimal d.added.length ++ " removed=" ++ Text.decimal d.removed.length ++
        " changed=" ++ Text.decimal d.changed.length,
      "before=" ++ d.beforeHash ++ " after=" ++ d.afterHash] ++
    (if d.layoutChanged then ["layout: " ++ p.layout ++ " -> " ++ q.layout] else []) ++
    underHeading "added:" (d.added.map NodeInfo.line) ++
    underHeading "removed:" (d.removed.map NodeInfo.line) ++
    underHeading "changed:" (d.changed.map ChangedNode.line))

end Wireframe
