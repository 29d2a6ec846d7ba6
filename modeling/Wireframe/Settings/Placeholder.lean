/-!
# Placeholders

A text may name variables of the environment between a dollar sign with an opening brace and a closing brace.

* **Expansion** (`expand`): every placeholder is replaced by the value of its variable; values are not read again.
* **Names** (`names`): the variables that an expansion asks for.
* **Plain texts** (`expand_of_not_mem`): without a dollar sign nothing is replaced.
-/

namespace Wireframe.Placeholder

/-- Why a text cannot be expanded. -/
inductive Failure where
  | unterminated
  | empty
  | missing (name : String)
deriving DecidableEq

def Failure.message : Failure → String
  | unterminated => "unterminated env placeholder `$\x7b...`"
  | empty => "empty env placeholder `$\x7b\x7d`"
  | missing name => "missing env var for placeholder `$\x7b" ++ name ++ "\x7d`"

inductive Piece where
  | literal (c : Char)
  | name (chars : List Char)
  /-- A placeholder without an end. -/
  | opened
deriving DecidableEq

mutual

/-- The pieces of a text outside placeholders. -/
def pieces : List Char → List Piece
  | '$' :: '{' :: s => named [] s
  | c :: s => .literal c :: pieces s
  | [] => []

/-- The pieces of a text inside a placeholder, whose name so far is given in reverse. -/
def named (acc : List Char) : List Char → List Piece
  | [] => [.opened]
  | c :: s => if c = '}' then .name acc.reverse :: pieces s else named (c :: acc) s

end

/-- The text of a piece under an environment. -/
def Piece.expand (env : String → Option String) : Piece → Except Failure (List Char)
  | literal c => .ok [c]
  | opened => .error .unterminated
  | name [] => .error .empty
  | name cs =>
    match env (String.ofList cs) with
    | some v => .ok v.toList
    | none => .error (.missing (String.ofList cs))

/-- The text of pieces under an environment; the first piece without a text fails. -/
def expandPieces (env : String → Option String) : List Piece → Except Failure (List Char)
  | [] => .ok []
  | p :: ps => do
    let s ← p.expand env
    let t ← expandPieces env ps
    return s ++ t

/-- A text with its placeholders replaced. -/
def expand (env : String → Option String) (text : String) : Except Failure String :=
  (expandPieces env (pieces text.toList)).map String.ofList

def names (text : String) : List String :=
  (pieces text.toList).filterMap fun
    | .name cs => some (String.ofList cs)
    | _ => none

/-! ## Texts without placeholders -/

/-- A text without dollar signs has no placeholders. -/
theorem pieces_of_not_mem {s : List Char} (h : '$' ∉ s) : pieces s = s.map Piece.literal := by
  induction s with
  | nil => rfl
  | cons c s ih =>
    obtain ⟨hc, hs⟩ := not_or.mp (mt List.mem_cons.mpr h)
    rw [pieces, ih hs, List.map_cons]
    exact fun _ hp _ => hc hp.symm

theorem expandPieces_literal (env : String → Option String) (s : List Char) :
    expandPieces env (s.map .literal) = .ok s := by
  induction s with
  | nil => rfl
  | cons c s ih =>
    rw [List.map_cons, expandPieces, ih]
    rfl

/-- A text without dollar signs is expanded to itself. -/
theorem expand_of_not_mem {env : String → Option String} {text : String} (h : '$' ∉ text.toList) :
    expand env text = .ok text := by
  rw [expand, pieces_of_not_mem h, expandPieces_literal]
  exact congrArg _ String.ofList_toList

theorem names_of_not_mem {text : String} (h : '$' ∉ text.toList) : names text = [] := by
  rw [names, pieces_of_not_mem h, List.filterMap_map]
  exact List.filterMap_eq_nil_iff.mpr fun _ _ => rfl

end Wireframe.Placeholder
