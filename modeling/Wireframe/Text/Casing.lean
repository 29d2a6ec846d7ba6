import Wireframe.Text.Blank
import Wireframe.Text.CasingTable

/-!
# Lower case

* **One character** (`lowerChar`): its lower-case form, which for one letter has two characters.
* **A whole text** (`lower`): every character lowered; a capital sigma at the end of a word takes its final form.
-/

namespace Wireframe.Text

/-- The code point that a run of capitals gives for `n`, if `n` stands in the run. -/
def CapitalRun.lower? (r : CapitalRun) (n : Nat) : Option Nat :=
  if r.first ≤ n ∧ n ≤ r.last ∧ (n - r.first) % r.step = 0 then some (r.lower + (n - r.first)) else none

def lowerChar (c : Char) : List Char :=
  if c = '\u0130' then ['i', '\u0307']
  else
    match capitals.findSome? (·.lower? c.toNat) with
    | some n => [Char.ofNat n]
    | none => [c]

/-- Whether a letter with case comes first once the characters between letters are passed over. -/
def letterFollows (s : List Char) : Bool :=
  match s.dropWhile (inTable caseIgnorable) with
  | [] => false
  | c :: _ => inTable cased c

/-- A capital sigma is final when a letter stands before it in its word and none after it. -/
def lowerSigma (before after : List Char) : Char :=
  if letterFollows before && !letterFollows after then 'ς' else 'σ'

/-- The lower-case form of the rest of a text; `before` is what was passed, nearest first. -/
def lowerAfter (before : List Char) : List Char → List Char
  | [] => []
  | c :: s => (if c = 'Σ' then [lowerSigma before s] else lowerChar c) ++ lowerAfter (c :: before) s

def lower (s : List Char) : List Char := lowerAfter [] s

end Wireframe.Text
