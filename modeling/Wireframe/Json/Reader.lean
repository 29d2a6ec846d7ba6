import Wireframe.Json.Scanner

/-!
# Reading documents

* **Parts** (`part`, `items`, `entries`): what stands at the head of a text, as a document, and the rest after it.
  Two steps take at least one character, so the length of the text bounds the steps.
* **Whole texts** (`Doc.ofText`): the document in a text, and what follows it.
-/

namespace Wireframe.Json.Reader

open Scanner (skipBlanks)

/-- The number of containers that may stand in each other, and one more. -/
def depthLimit : Nat := 128

/-- The fault of a container below `depth` others, if that is too deep. -/
def tooDeep? (depth : Nat) (s : List Char) : Option Fault :=
  if depthLimit ≤ depth + 1 then some ⟨.tooDeep, .peek s⟩ else none

/-- A word of letters whose value is `v`. -/
def wordDoc (s letters after : List Char) (v : Scalar) : Doc × List Char :=
  match Scanner.word letters after with
  | .ok r => (.scalar (some (.here s)) (some (.here r)) (.ok v), r)
  | .error f => (.broken (.here s) f f, [])

def numberDoc (s : List Char) : Doc × List Char :=
  match Scanner.lexeme s with
  | .ok (l, r) => (.scalar (some (.here s)) (some (.here r)) ((l.value r).map .num), r)
  | .error (wanted, passed) => (.broken (.here s) wanted passed, [])

/-- The characters of a text, and the rest after it; or the faults of a text without an end. -/
def textParts (after : List Char) : Except (Fault × Fault) (Except Fault String × List Char) :=
  match Scanner.text after, Scanner.passText after with
  | .ok (cs, r), _ => .ok (.ok (String.ofList cs), r)
  | .error f, .ok r => .ok (.error f, r)
  | .error f, .error g => .error (f, g)

/-- A text, of which `after` follows the first quote. -/
def textDoc (s after : List Char) : Doc × List Char :=
  match textParts after with
  | .ok (v, r) => (.scalar (some (.here s)) (some (.here r)) (v.map .str), r)
  | .error (wanted, passed) => (.broken (.here s) wanted passed, [])

mutual

/-- The document at the head of a text without blanks in front, below `depth` containers, and the rest after it. -/
def part (depth : Nat) : Nat → List Char → Doc × List Char
  | 0, _ => (.absent ⟨.endInValue, .peek []⟩, [])
  | _ + 1, [] => (.absent ⟨.endInValue, .peek []⟩, [])
  | fuel + 1, c :: s =>
    match c with
    | '[' =>
      match skipBlanks s with
      | [] => (.arr (some (.here (c :: s))) (tooDeep? depth (c :: s)) []
          (.cut ⟨.endInList, .peek []⟩ ⟨.endInList, .peek []⟩), [])
      | ']' :: r => (.arr (some (.here (c :: s))) (tooDeep? depth (c :: s)) [] (.closed (some (.here (']' :: r)))), r)
      | s₁ =>
        let (ds, e, r) := items (depth + 1) fuel s₁
        (.arr (some (.here (c :: s))) (tooDeep? depth (c :: s)) ds e, r)
    | '{' =>
      match skipBlanks s with
      | [] => (.obj (some (.here (c :: s))) (tooDeep? depth (c :: s)) []
          (.cut ⟨.endInObject, .peek []⟩ ⟨.endInObject, .peek []⟩), [])
      | '}' :: r => (.obj (some (.here (c :: s))) (tooDeep? depth (c :: s)) [] (.closed (some (.here ('}' :: r)))), r)
      | '"' :: s₁ =>
        let (es, e, r) := entries (depth + 1) fuel s₁
        (.obj (some (.here (c :: s))) (tooDeep? depth (c :: s)) es e, r)
      | s₁ => (.obj (some (.here (c :: s))) (tooDeep? depth (c :: s)) []
          (.cut ⟨.keyNotString, .peek s₁⟩ ⟨.keyNotString, .peek s₁⟩), [])
    | '"' => textDoc (c :: s) s
    | 'n' => wordDoc (c :: s) ['u', 'l', 'l'] s .null
    | 't' => wordDoc (c :: s) ['r', 'u', 'e'] s (.bool true)
    | 'f' => wordDoc (c :: s) ['a', 'l', 's', 'e'] s (.bool false)
    | c =>
      if c = '-' ∨ Scanner.isDigit c = true then numberDoc (c :: s)
      else (.broken (.here (c :: s)) ⟨.expectedValue, .peek (c :: s)⟩ ⟨.expectedValue, .peek (c :: s)⟩, [])

/-- The items of an array from the first character of one of them, how they end, and the rest after the bracket. -/
def items (depth : Nat) : Nat → List Char → List Doc × Ending × List Char
  | 0, _ => ([], .cut ⟨.endInList, .peek []⟩ ⟨.endInList, .peek []⟩, [])
  | fuel + 1, s =>
    let (d, s₁) := part depth fuel s
    match skipBlanks s₁ with
    | [] => ([d], .cut ⟨.endInList, .peek []⟩ ⟨.endInList, .peek []⟩, [])
    | ']' :: r => ([d], .closed (some (.here (']' :: r))), r)
    | ',' :: s₂ =>
      match skipBlanks s₂ with
      | [] => ([d], .cut ⟨.endInValue, .peek []⟩ ⟨.endInValue, .peek []⟩, [])
      | ']' :: r => ([d], .cut ⟨.trailingComma, .peek (']' :: r)⟩ ⟨.expectedValue, .peek (']' :: r)⟩, [])
      | s₃ =>
        let (ds, e, r) := items depth fuel s₃
        (d :: ds, e, r)
    | s₂ => ([d], .cut ⟨.expectedListEnd, .peek s₂⟩ ⟨.expectedListEnd, .peek s₂⟩, [])

/-- The members of an object from after the first quote of a key, how they end, and the rest after the bracket. -/
def entries (depth : Nat) : Nat → List Char → List (Entry Doc) × Ending × List Char
  | 0, _ => ([], .cut ⟨.endInObject, .peek []⟩ ⟨.endInObject, .peek []⟩, [])
  | fuel + 1, s =>
    match textParts s with
    | .error (wanted, passed) => ([], .cut wanted passed, [])
    | .ok (key, s₁) =>
      let (d, s₂) := match skipBlanks s₁ with
        | [] => (.absent ⟨.endInObject, .peek []⟩, [])
        | ':' :: s₂ => part depth fuel (skipBlanks s₂)
        | s₂ => (.absent ⟨.expectedColon, .peek s₂⟩, [])
      match skipBlanks s₂ with
      | [] => ([⟨key, some (.here s₁), d⟩], .cut ⟨.endInObject, .peek []⟩ ⟨.endInObject, .peek []⟩, [])
      | '}' :: r => ([⟨key, some (.here s₁), d⟩], .closed (some (.here ('}' :: r))), r)
      | ',' :: s₃ =>
        match skipBlanks s₃ with
        | [] => ([⟨key, some (.here s₁), d⟩], .cut ⟨.endInValue, .peek []⟩ ⟨.endInObject, .peek []⟩, [])
        | '"' :: s₄ =>
          let (es, e, r) := entries depth fuel s₄
          (⟨key, some (.here s₁), d⟩ :: es, e, r)
        | '}' :: r =>
          ([⟨key, some (.here s₁), d⟩], .cut ⟨.trailingComma, .peek ('}' :: r)⟩ ⟨.keyNotString, .peek ('}' :: r)⟩, [])
        | s₄ => ([⟨key, some (.here s₁), d⟩], .cut ⟨.keyNotString, .peek s₄⟩ ⟨.keyNotString, .peek s₄⟩, [])
      | s₃ => ([⟨key, some (.here s₁), d⟩], .cut ⟨.expectedObjectEnd, .peek s₃⟩ ⟨.expectedObjectEnd, .peek s₃⟩, [])

end

end Reader

def Doc.ofText (s : List Char) : Doc × List Char :=
  let s₁ := Scanner.skipBlanks s
  Reader.part 0 (2 * s₁.length + 2) s₁

/-- Nothing but blanks may follow a document. -/
def checkEnd (rest : List Char) : Except Fault Unit :=
  match Scanner.skipBlanks rest with
  | [] => .ok ()
  | s => .error ⟨.trailingCharacters, .peek s⟩

end Wireframe.Json
