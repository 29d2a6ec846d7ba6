import Wireframe.Json.Reader
import Wireframe.Json.Writer
import Wireframe.Text.Natural
import Wireframe.Text.Quoted

/-!
# Typed values from documents

One set of decoders serves texts and values in memory: both are a `Doc`. An error that has no place of its own takes
the place where its container leaves off.

* **Errors** (`Mismatch`, `DecodeError`): what does not fit, and where.
* **Scalars** (`string`, `size`, `optional`), **lists and maps** (`list`, `stringMap`).
* **Choices** (`Choice.decode`): a name alone, or an object with one member.
* **Records** (`Record.decode`): an object, where unknown members are passed over, or an array of the fields in order.
* **Whole texts** (`decodeText`): nothing may follow the value.
-/

namespace Wireframe.Json

/-! ## Errors -/

/-- What was found in place of an expected value. -/
inductive Found where
  | scalar (value : Scalar)
  | list
  | map
  | bareName

def Found.message : Found → String
  | .scalar .null => "null"
  | .scalar (.bool true) => "boolean `true`"
  | .scalar (.bool false) => "boolean `false`"
  | .scalar (.num (.int i)) => "integer `" ++ String.ofList (writeInt i) ++ "`"
  | .scalar (.num (.float x)) => "floating point `" ++ String.ofList x.text ++ "`"
  | .scalar (.str s) => "string " ++ Text.quote s
  | .list => "sequence"
  | .map => "map"
  | .bareName => "unit variant"

/-- Why a document does not fit a type. -/
inductive Mismatch where
  | fault (cause : SyntaxError)
  | wrongType (found : Found) (expected : String)
  | wrongValue (found : Found) (expected : String)
  | wrongLength (length : Nat) (expected : String)
  | missing (field : String)
  | duplicate (field : String)
  | unknownName (name : String) (known : List String)

/-- Names in backticks, as the end of a sentence that says what was expected. -/
def nameList (names : List String) : String :=
  match names with
  | [] => "there are no variants"
  | [a] => s!"expected `{a}`"
  | [a, b] => s!"expected `{a}` or `{b}`"
  | names => "expected one of " ++ String.intercalate ", " (names.map fun n => "`" ++ n ++ "`")

def Mismatch.message : Mismatch → String
  | .fault c => c.message
  | .wrongType f e => s!"invalid type: {f.message}, expected {e}"
  | .wrongValue f e => s!"invalid value: {f.message}, expected {e}"
  | .wrongLength n e => "invalid length " ++ Text.decimal n ++ ", expected " ++ e
  | .missing f => s!"missing field `{f}`"
  | .duplicate f => s!"duplicate field `{f}`"
  | .unknownName n ns => s!"unknown variant `{n}`, {nameList ns}"

/-- A mismatch and its place, if it has one. -/
structure DecodeError where
  cause : Mismatch
  mark : Option Mark

/-- A reader of typed values. -/
abbrev Decoder (α : Type) := Doc → Except DecodeError α

def Fault.toError (f : Fault) : DecodeError := ⟨.fault f.cause, some f.mark⟩

/-- A result whose faults are errors. -/
def orFault {α : Type} : Except Fault α → Except DecodeError α
  | .ok a => .ok a
  | .error f => .error f.toError

/-- An error without a place takes the given one. -/
def DecodeError.orAt (e : DecodeError) (m : Option Mark) : DecodeError :=
  match e.mark with
  | some _ => e
  | none => { e with mark := m }

/-- A result whose error takes a place if it has none. -/
def placed {α : Type} (m : Option Mark) : Except DecodeError α → Except DecodeError α
  | .ok a => .ok a
  | .error e => .error (e.orAt m)

/-- The place where a reader that stops at `m` leaves an array. -/
def leaveList (m : Mark) : Mark :=
  match Scanner.skipBlanks m.rest with
  | ']' :: r => .here r
  | ',' :: r => .here (Scanner.skipBlanks r)
  | r => .here r

/-- The place where a reader that stops at `m` leaves an object. -/
def leaveMap (m : Mark) : Mark :=
  match Scanner.skipBlanks m.rest with
  | '}' :: r => .here r
  | r => .here r

/-- The error of a document of another type than the expected one; a document that is broken says so instead. -/
def otherType {α : Type} (expected : String) : Decoder α
  | .scalar _ stop (.ok s) => .error ⟨.wrongType (.scalar s) expected, stop⟩
  | .scalar _ _ (.error f) => .error f.toError
  | .arr start _ _ _ => .error ⟨.wrongType .list expected, start⟩
  | .obj start _ _ _ => .error ⟨.wrongType .map expected, start⟩
  | .broken _ f _ => .error f.toError
  | .absent f => .error f.toError

/-! ## Scalars -/

/-- A text; `expected` names it in errors. -/
def stringAs (expected : String) : Decoder String
  | .scalar _ _ (.ok (.str s)) => .ok s
  | d => otherType expected d

def string : Decoder String := stringAs "a string"

/-- A natural number; `expected` names its type in errors. -/
def natAs (expected : String) : Decoder Nat
  | .scalar _ stop (.ok (.num (.int i))) =>
    if 0 ≤ i then .ok i.toNat else .error ⟨.wrongValue (.scalar (.num (.int i))) expected, stop⟩
  | d => otherType expected d

def size : Decoder Nat := natAs "usize"

def optional {α : Type} (decode : Decoder α) : Decoder (Option α)
  | .scalar _ _ (.ok .null) => .ok none
  | d => (decode d).map some

def anything : Decoder Json := fun d => orFault d.value

/-- Null where a name stands for itself. -/
def unit : Decoder Unit
  | .scalar _ _ (.ok .null) => .ok ()
  | d => otherType "unit" d

/-! ## Lists and maps -/

/-- Items one by one; an item that fails without a place takes the place where the array is left. -/
def listItems {α β : Type} (stop? : α → Option Mark) (decode : α → Except DecodeError β) :
    List α → Except DecodeError (List β)
  | [] => .ok []
  | d :: ds => do
    let b ← placed ((stop? d).map leaveList) (decode d)
    let bs ← listItems stop? decode ds
    return b :: bs

def list {α : Type} (decode : Decoder α) : Decoder (List α)
  | .arr _ deep ds e => do
    orFault (enter deep)
    let xs ← listItems Doc.stop? decode ds
    orFault e.check
    return xs
  | d => otherType "a sequence" d

/-- The members of a map from texts to texts, one by one. -/
def mapEntries : List (Entry Doc) → Except DecodeError (List (String × String))
  | [] => .ok []
  | e :: es => do
    let k ← orFault e.key
    let v ← string e.value
    let ms ← mapEntries es
    return (k, v) :: ms

/-- A map from texts to texts, as its members in the order of the document. -/
def stringMap : Decoder (List (String × String))
  | .obj _ deep es e => do
    orFault (enter deep)
    let ms ← mapEntries es
    orFault e.check
    return ms
  | d => otherType "a map" d

/-! ## Choices -/

/-- What a name of a choice stands for: a value, or a value that its content gives. -/
inductive Variant (α : Type) where
  | bare (value : α)
  | holding (decode : Decoder α)

abbrev Choice (α : Type) := List (String × Variant α)

namespace Choice

variable {α : Type}

/-- The variant of a name that stands at a place. -/
def variant (c : Choice α) (name : String) (stop : Option Mark) : Except DecodeError (Variant α) :=
  match c.lookup name with
  | some v => .ok v
  | none => .error ⟨.unknownName name (c.map (·.1)), stop⟩

def ofName (c : Choice α) (name : String) (stop : Option Mark) : Except DecodeError α := do
  match ← c.variant name stop with
  | .bare a => return a
  | .holding _ => .error ⟨.wrongType .bareName "newtype variant", none⟩

/-- After its one member, the object of a choice has to end. -/
def checkSingle (after : Option Mark) (more : Bool) : Except DecodeError Unit :=
  match after with
  | none => if more then .error ⟨.wrongValue .map "map with a single key", none⟩ else .ok ()
  | some m =>
    match Scanner.skipBlanks m.rest with
    | '}' :: _ => .ok ()
    | [] => .error ⟨.fault .endInObject, some (.here [])⟩
    | r => .error ⟨.fault .expectedValue, some (.here r)⟩

/-- An object with one member, whose key is the name. -/
def ofMember (c : Choice α) (e : Entry Doc) (more : Bool) : Except DecodeError α := do
  let name ← orFault e.key
  let a ← match ← c.variant name e.afterKey with
    | .bare a => (unit e.value).map fun _ => a
    | .holding decode => decode e.value
  checkSingle e.value.stop? more
  return a

/-- The error of an object without a member: what stands in place of the key is no name. -/
def noMember (start : Option Mark) : Except DecodeError α :=
  match start with
  | none => .error ⟨.wrongValue .map "map with a single key", none⟩
  | some m =>
    match Scanner.skipBlanks (m.rest.drop 1) with
    | [] => .error ⟨.fault .endInObject, some (.here [])⟩
    | '}' :: r => .error ⟨.fault .expectedValue, some (.peek ('}' :: r))⟩
    | r => .error ⟨.fault .keyNotString, some (.peek r)⟩

/-- The error of a document that is neither a name nor an object. -/
def neither (start : Option Mark) (d : Doc) : Except DecodeError α :=
  match start with
  | none => otherType "string or map" d
  | some m => .error ⟨.fault .expectedValue, some (.peek m.rest)⟩

def atQuote (start : Option Mark) : Bool :=
  match start with
  | some m => m.rest.head? == some '"'
  | none => false

def decode (c : Choice α) : Decoder α
  | .scalar _ stop (.ok (.str s)) => c.ofName s stop
  | .scalar start stop v =>
    match v with
    | .error f => if atQuote start then .error f.toError else neither start (.scalar start stop v)
    | .ok _ => neither start (.scalar start stop v)
  | .obj start deep es ending => do
    orFault (enter deep)
    match start, es with
    | none, _ :: _ :: _ => .error ⟨.wrongValue .map "map with a single key", none⟩
    | _, e :: es => c.ofMember e (!es.isEmpty)
    | _, [] =>
      match start, ending with
      | some m, .cut f _ =>
        if atQuote (some (.here (Scanner.skipBlanks (m.rest.drop 1)))) then .error f.toError else noMember start
      | _, _ => noMember start
  | .arr start deep ds ending => neither start (.arr start deep ds ending)
  | .broken start wanted passed =>
    if atQuote (some start) then .error wanted.toError else neither (some start) (.broken start wanted passed)
  | .absent f => .error f.toError

end Choice

/-- A choice of names that stand for themselves. -/
def names {α : Type} (all : List α) (name : α → String) : Choice α := all.map fun a => (name a, .bare a)

/-! ## Records -/

/-- A field of a record under construction. The source of a field is a document, or more than that. -/
structure Field (σ π : Type) where
  name : String
  /-- Whether an array of fields may end before this one. -/
  optional : Bool
  filled : π → Bool
  read : π → σ → Except DecodeError π

/-- A record: its fields in order, the record without any, and how it is completed. -/
structure Record (σ π α : Type) where
  name : String
  fields : List (Field σ π)
  empty : π
  finish : π → Except Mismatch α

def Field.of {σ π β : Type} (name : String) (optional : Bool) (get : π → Option β) (set : β → π → π)
    (decode : σ → Except DecodeError β) : Field σ π :=
  { name, optional, filled := fun p => (get p).isSome, read := fun p s => (decode s).map fun b => set b p }

namespace Record

variable {σ π α : Type}

/-- The end of a record whose fields have been read. -/
def complete (r : Record σ π α) (p : π) (m : Option Mark) : Except DecodeError α :=
  match r.finish p with
  | .ok a => .ok a
  | .error c => .error ⟨c, m⟩

/-- Members in the order of the document. -/
def readEntries (r : Record σ π α) (doc : σ → Doc) : π → List (Entry σ) → Except DecodeError π
  | p, [] => .ok p
  | p, e :: es => do
    let k ← orFault e.key
    match r.fields.find? (·.name == k) with
    | none =>
      orFault (doc e.value).skip
      readEntries r doc p es
    | some f =>
      if f.filled p then .error ⟨.duplicate k, e.afterKey.map leaveMap⟩
      else
        let p ← placed ((doc e.value).stop?.map leaveMap) (f.read p e.value)
        readEntries r doc p es

def ofEntries (r : Record σ π α) (doc : σ → Doc) (deep : Option Fault) (es : List (Entry σ)) (ending : Ending) :
    Except DecodeError α := do
  orFault (enter deep)
  let p ← r.readEntries doc r.empty es
  orFault ending.check
  r.complete p ending.stop?

/-- What an array has to have, in words. -/
def lengthText (r : Record σ π α) : String :=
  r.name ++ " with " ++ Text.decimal r.fields.length ++ (if r.fields.length = 1 then " element" else " elements")

/-- An array with more items than a record has fields. -/
def surplus (last : Option Mark) (count : Nat) : Except DecodeError Unit :=
  match last with
  | none => .error ⟨.wrongLength count "fewer elements in array", none⟩
  | some m =>
    match Scanner.skipBlanks m.rest with
    | ',' :: r =>
      match Scanner.skipBlanks r with
      | ']' :: r => .error ⟨.fault .trailingComma, some (.peek (']' :: r))⟩
      | r => .error ⟨.fault .trailingCharacters, some (.peek r)⟩
    | r => .error ⟨.fault .trailingCharacters, some (.peek r)⟩

/-- Items in the order of the fields. `last` is the place after the item before. -/
def readItems (r : Record σ π α) (doc : σ → Doc) (ending : Ending) (total : Nat) :
    Nat → Option Mark → π → List (Field σ π) → List σ → Except DecodeError π
  | _, last, p, [], _ :: _ => (surplus last total).map fun _ => p
  | _, last, p, [], [] =>
    match ending, last with
    | .closed _, _ => .ok p
    | .cut f _, none => .error f.toError
    | .cut f _, some m =>
      match Scanner.skipBlanks m.rest with
      | [] => .error f.toError
      | _ => (surplus (some m) total).map fun _ => p
  | i, _, p, f :: fs, [] => do
    orFault ending.check
    if f.optional then readItems r doc ending total i none p fs []
    else .error ⟨.wrongLength i r.lengthText, ending.stop?⟩
  | i, _, p, f :: fs, s :: ss => do
    let p ← placed ((doc s).stop?.map leaveList) (f.read p s)
    readItems r doc ending total (i + 1) (doc s).stop? p fs ss

def ofItems (r : Record σ π α) (doc : σ → Doc) (deep : Option Fault) (ss : List σ) (ending : Ending) :
    Except DecodeError α := do
  orFault (enter deep)
  let p ← r.readItems doc ending ss.length 0 none r.empty r.fields ss
  r.complete p ending.stop?

def decode (r : Record Doc π α) : Decoder α
  | .obj _ deep es ending => r.ofEntries id deep es ending
  | .arr _ deep ds ending => r.ofItems id deep ds ending
  | d => otherType r.name d

end Record

/-! ## Whole texts -/

/-- An error in a text, with the line and column of its place. -/
structure TextError where
  cause : Mismatch
  position : Option Position

def TextError.message (e : TextError) : String :=
  match e.position with
  | some p => e.cause.message ++ " at line " ++ Text.decimal p.line ++ " column " ++ Text.decimal p.column
  | none => e.cause.message

def DecodeError.inText (s : List Char) (e : DecodeError) : TextError := ⟨e.cause, e.mark.map (Mark.position s)⟩

/-- A typed value from a text with nothing else in it. -/
def decodeText {α : Type} (decode : Decoder α) (text : String) : Except TextError α :=
  let (d, rest) := Doc.ofText text.toList
  match (do let a ← decode d; orFault (checkEnd rest); return a) with
  | .ok a => .ok a
  | .error e => .error (e.inText text.toList)

/-- A typed value from a value in memory. -/
def decodeJson {α : Type} (decode : Decoder α) (v : Json) : Except TextError α :=
  match decode (Doc.ofJson v.canon) with
  | .ok a => .ok a
  | .error e => .error (e.inText [])

def parse (text : String) : Except TextError Json := decodeText anything text

end Wireframe.Json
