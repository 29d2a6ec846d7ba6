import Wireframe.Json.Doc

/-!
# Scalars in a text

* **Words** (`word`): `null`, `true` and `false`, letter by letter.
* **Numbers** (`Lexeme`): the shape of a number is read first; its value (`Lexeme.value`) is an integer of 64 bits, or
  the floating-point number of the leading digits that stay below `2 ^ 64`.
* **Texts** (`text`, `passText`): characters up to the closing quote; a text that is wanted must spell characters, a
  text that is passed over needs only the shape of its escapes.
-/

namespace Wireframe.Json.Scanner

def skipBlanks : List Char → List Char :=
  List.dropWhile fun c => c = ' ' || c = '\n' || c = '\t' || c = '\r'

/-! ## Words -/

/-- The rest after the letters of a word. -/
def word : List Char → List Char → Except Fault (List Char)
  | [], s => .ok s
  | _ :: _, [] => .error ⟨.endInValue, .here []⟩
  | l :: ls, c :: s => if c = l then word ls s else .error ⟨.expectedWord, .peek (c :: s)⟩

/-! ## Numbers -/

def isDigit (c : Char) : Bool := '0' ≤ c && c ≤ '9'

def digitValue (c : Char) : Nat := c.toNat - 48

/-- The shape of a number: sign, integer digits, digits after a point, and a power of ten with its sign. -/
structure Lexeme where
  negative : Bool
  whole : List Char
  fraction : Option (List Char)
  power : Option (Bool × List Char)

/-- Why a number has no shape: as a value that is wanted, and as one that is passed over. -/
abbrev Shape (α : Type) := Except (Fault × Fault) (α × List Char)

/-- A fault that shows both when a value is wanted and when it is passed over. -/
def both (f : Fault) : Fault × Fault := (f, f)

/-- The integer digits: a zero alone, or digits that do not start with one. -/
def whole (s : List Char) : Shape (List Char) :=
  match s with
  | [] => .error (⟨.endInValue, .here []⟩, ⟨.invalidNumber, .here []⟩)
  | c :: r =>
    if c = '0' then
      match r with
      | d :: _ => if isDigit d then .error (both ⟨.invalidNumber, .peek r⟩) else .ok ([c], r)
      | [] => .ok ([c], r)
    else if isDigit c then .ok (c :: r.takeWhile isDigit, r.dropWhile isDigit)
    else .error (both ⟨.invalidNumber, .peek s⟩)

/-- The digits after a point, if there is one. -/
def fraction (s : List Char) : Shape (Option (List Char)) :=
  match s with
  | '.' :: r =>
    match r with
    | [] => .error (⟨.endInValue, .peek []⟩, ⟨.invalidNumber, .peek []⟩)
    | c :: _ =>
      if isDigit c then .ok (some (r.takeWhile isDigit), r.dropWhile isDigit)
      else .error (both ⟨.invalidNumber, .peek r⟩)
  | _ => .ok (none, s)

/-- The sign of a power of ten. -/
def powerSign : List Char → Bool × List Char
  | '+' :: r => (false, r)
  | '-' :: r => (true, r)
  | r => (false, r)

/-- The power of ten, if there is one. -/
def power (s : List Char) : Shape (Option (Bool × List Char)) :=
  match s with
  | [] => .ok (none, [])
  | c :: r =>
    if c = 'e' ∨ c = 'E' then
      let (negative, r) := powerSign r
      match r with
      | [] => .error (⟨.endInValue, .here []⟩, ⟨.invalidNumber, .here []⟩)
      | d :: _ =>
        if isDigit d then .ok (some (negative, r.takeWhile isDigit), r.dropWhile isDigit)
        else .error (both ⟨.invalidNumber, .peek r⟩)
    else .ok (none, s)

def sign : List Char → Bool × List Char
  | '-' :: r => (true, r)
  | s => (false, s)

def lexeme (s : List Char) : Shape Lexeme :=
  match whole (sign s).2 with
  | .error f => .error f
  | .ok (w, s₁) =>
    match fraction s₁ with
    | .error f => .error f
    | .ok (f, s₂) =>
      match power s₂ with
      | .error f => .error f
      | .ok (p, s₃) => .ok (⟨(sign s).1, w, f, p⟩, s₃)

/-- Leading digits that stay below `2 ^ 64`, and how many digits were read after the first that did not fit. -/
def leading : Nat × Nat → List Char → Nat × Nat
  | a, [] => a
  | (n, dropped), c :: s =>
    if dropped = 0 ∧ n * 10 + digitValue c < Nat.pow 2 64 then leading (n * 10 + digitValue c, 0) s
    else leading (n, dropped + 1) s

/-- More digits after a point, as long as all of them stay below `2 ^ 64`, and how many were taken. -/
def following : Nat × Nat → List Char → Nat × Nat
  | a, [] => a
  | (n, taken), c :: s =>
    if n * 10 + digitValue c < Nat.pow 2 64 then following (n * 10 + digitValue c, taken + 1) s else (n, taken)

/-- A power of ten below `2 ^ 31`, or the digits left after the first one that does not fit. -/
def powerValue : Nat → List Char → Except (List Char) Nat
  | n, [] => .ok n
  | n, c :: s => if n * 10 + digitValue c < Nat.pow 2 31 then powerValue (n * 10 + digitValue c) s else .error s

/-- The value of a number whose shape is `l` and that is followed by `rest`. -/
def Lexeme.value (l : Lexeme) (rest : List Char) : Except Fault Number :=
  let (n, dropped) := leading (0, 0) l.whole
  match l.fraction, l.power with
  | none, none =>
    if dropped = 0 ∧ (l.negative = false ∨ (n ≠ 0 ∧ n ≤ Nat.pow 2 63)) then .ok (.int (if l.negative then -n else n))
    else floatOf n dropped
  | f, p =>
    let (n, taken) := following (n, 0) (f.getD [])
    let places : Int := (dropped : Int) - taken
    match p with
    | none => floatOf n places
    | some (negative, ds) =>
      match powerValue 0 ds with
      | .ok e => floatOf n (if negative then places - e else places + e)
      | .error left =>
        if n ≠ 0 ∧ negative = false then .error ⟨.numberOutOfRange, .here (left ++ rest)⟩
        else .ok (.float (.zero l.negative))
where
  /-- The floating-point number of digits and a power of ten. -/
  floatOf (n : Nat) (places : Int) : Except Fault Number :=
    match Binary64.ofDigits? l.negative n places with
    | some x => .ok (.float x)
    | none => .error ⟨.numberOutOfRange, .here rest⟩

/-! ## Texts -/

def hexValue? (c : Char) : Option Nat :=
  if '0' ≤ c ∧ c ≤ '9' then some (c.toNat - 48)
  else if 'a' ≤ c ∧ c ≤ 'f' then some (c.toNat - 87)
  else if 'A' ≤ c ∧ c ≤ 'F' then some (c.toNat - 55)
  else none

/-- Four hexadecimal digits at the head of a text; what stands there instead fills four bytes or ends the text. -/
def hexUnit (s : List Char) : Except Fault Nat :=
  match s with
  | a :: b :: c :: d :: _ =>
    match hexValue? a, hexValue? b, hexValue? c, hexValue? d with
    | some a, some b, some c, some d => .ok (((a * 16 + b) * 16 + c) * 16 + d)
    | _, _, _, _ => short
  | _ => short
where
  /-- The fault of a text that does not start with four digits. -/
  short : Except Fault Nat :=
    if byteCount s < 4 then .error ⟨.endInString, .here []⟩ else .error ⟨.invalidEscape, ⟨s, 4⟩⟩

/-- The character that a letter after a backslash stands for. -/
def shortEscape? (c : Char) : Option Char :=
  match c with
  | '"' => some '"'
  | '\\' => some '\\'
  | '/' => some '/'
  | 'b' => some '\x08'
  | 'f' => some '\x0c'
  | 'n' => some '\n'
  | 'r' => some '\r'
  | 't' => some '\t'
  | _ => none

/-- The second half of a pair of surrogates, after the first one. -/
def secondSurrogate (s : List Char) : Except Fault Nat :=
  match s with
  | '\\' :: 'u' :: r =>
    match hexUnit r with
    | .ok n => if 0xDC00 ≤ n ∧ n ≤ 0xDFFF then .ok n else .error ⟨.loneSurrogate, .here (r.drop 4)⟩
    | .error f => .error f
  | ['\\'] => .error ⟨.endInString, .here []⟩
  | '\\' :: r => .error ⟨.unfinishedSurrogate, .peek r⟩
  | [] => .error ⟨.endInString, .here []⟩
  | s => .error ⟨.unfinishedSurrogate, .peek s⟩

/-- The character of the escape after a backslash, and how many characters spell it. -/
def escape (s : List Char) : Except Fault (Char × Nat) :=
  match s with
  | [] => .error ⟨.endInString, .here []⟩
  | 'u' :: r => do
    let n ← hexUnit r
    if 0xDC00 ≤ n ∧ n ≤ 0xDFFF then .error ⟨.loneSurrogate, .here (r.drop 4)⟩
    else if 0xD800 ≤ n ∧ n ≤ 0xDBFF then do
      let m ← secondSurrogate (r.drop 4)
      return (Char.ofNat (0x10000 + (n - 0xD800) * 0x400 + (m - 0xDC00)), 11)
    else return (Char.ofNat n, 5)
  | c :: _ =>
    match shortEscape? c with
    | some d => .ok (d, 1)
    | none => .error ⟨.invalidEscape, .peek s⟩

/-- How many characters the escape after a backslash has, where its meaning does not matter. -/
def passEscape (s : List Char) : Except Fault Nat :=
  match s with
  | [] => .error ⟨.endInString, .here []⟩
  | 'u' :: r => (hexUnit r).map fun _ => 5
  | c :: _ => if (shortEscape? c).isSome then .ok 1 else .error ⟨.invalidEscape, .peek s⟩

/-- The characters of a text after its first quote, and the rest after its last. -/
def text : List Char → Except Fault (List Char × List Char)
  | [] => .error ⟨.endInString, .here []⟩
  | c :: s =>
    if c = '"' then .ok ([], s)
    else if c = '\\' then
      match escape s with
      | .error f => .error f
      | .ok (d, n) => (text (s.drop n)).map fun r => (d :: r.1, r.2)
    else if c.toNat < 0x20 then .error ⟨.controlCharacter, .peek (c :: s)⟩
    else (text s).map fun r => (c :: r.1, r.2)
termination_by s => s.length
decreasing_by all_goals simp only [List.length_drop, List.length_cons]; omega

/-- The rest after a text that is passed over, from after its first quote. -/
def passText : List Char → Except Fault (List Char)
  | [] => .error ⟨.endInString, .here []⟩
  | c :: s =>
    if c = '"' then .ok s
    else if c = '\\' then
      match passEscape s with
      | .error f => .error f
      | .ok n => passText (s.drop n)
    else if c.toNat < 0x20 then .error ⟨.controlCharacter, .here (c :: s)⟩
    else passText s
termination_by s => s.length
decreasing_by all_goals simp only [List.length_drop, List.length_cons]; omega

end Wireframe.Json.Scanner
