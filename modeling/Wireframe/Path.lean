import Wireframe.Json.Decode
import Wireframe.Text.Lines
import Wireframe.Text.Natural

/-!
# Places in a document

* **Paths** (`Path`): keys and indices from the root to a value, shown as `$.components[0].type`.
* **Order** (`Path.compare`): segment by segment, a key before an index and a shorter path before a longer one.
* **Pointers** (`Path.ofPointer`): the slash notation for the same places; a token that spells a number is an index.
-/

namespace Wireframe

/-- One step into a document. -/
inductive Segment where
  | key (name : String)
  | index (position : Nat)
deriving DecidableEq

/-- The way from the root of a document to one of its values. -/
structure Path where
  segments : List Segment
deriving DecidableEq

namespace Segment

/-- Keys come before indices; keys are ordered by code points and indices by size. -/
def compare : Segment → Segment → Ordering
  | key a, key b => Ord.compare a b
  | key _, index _ => .lt
  | index _, key _ => .gt
  | index a, index b => Ord.compare a b

def text : Segment → String
  | key k => "." ++ k
  | index i => "[" ++ Text.decimal i ++ "]"

def toJson : Segment → Json
  | key k => .obj [("Key", .str k)]
  | index i => .obj [("Index", .ofNat i)]

def choice : Json.Choice Segment := [
  ("Key", .holding fun d => (Json.string d).map key),
  ("Index", .holding fun d => (Json.size d).map index)]

def decode : Json.Decoder Segment := choice.decode

end Segment

namespace Path

def root : Path := ⟨[]⟩

def key (p : Path) (name : String) : Path := ⟨p.segments ++ [.key name]⟩

def index (p : Path) (position : Nat) : Path := ⟨p.segments ++ [.index position]⟩

def isRoot (p : Path) : Bool := p.segments.isEmpty

/-- Paths are ordered segment by segment. -/
def compare (p q : Path) : Ordering := List.compareLex Segment.compare p.segments q.segments

def text (p : Path) : String := "$" ++ String.join (p.segments.map Segment.text)

def toJson (p : Path) : Json := .obj [("segments", .arr (p.segments.map Segment.toJson))]

def record : Json.Record Json.Doc (Option (List Segment)) Path where
  name := "struct FieldPath"
  fields := [.of "segments" false id (fun b _ => some b) (Json.list Segment.decode)]
  empty := none
  finish
    | some s => .ok ⟨s⟩
    | none => .error (.missing "segments")

def decode : Json.Decoder Path := record.decode

/-! ## Pointers -/

def escape (key : List Char) : List Char :=
  key.flatMap fun c => if c = '~' then ['~', '0'] else if c = '/' then ['~', '1'] else [c]

def toToken : Segment → List Char
  | .key k => escape k.toList
  | .index i => Nat.toDigits 10 i

def toPointer (place : List Segment) : String := String.ofList (place.flatMap fun s => '/' :: toToken s)

/-- A token without its escapes: `~1` is a slash and `~0` is a tilde. -/
def unescape : List Char → List Char
  | '~' :: '1' :: s => '/' :: unescape s
  | '~' :: '0' :: s => '~' :: unescape s
  | c :: s => c :: unescape s
  | [] => []

/-- The step that a token spells. -/
def ofToken (token : List Char) : Segment :=
  match Text.natural64? (unescape token) with
  | some i => .index i
  | none => .key (String.ofList (unescape token))

/-- The path of a pointer; empty tokens are passed over. -/
def ofPointer (pointer : String) : Path :=
  ⟨((Text.splitOn '/' pointer.toList).filter fun t => !t.isEmpty).map ofToken⟩

end Path

end Wireframe
