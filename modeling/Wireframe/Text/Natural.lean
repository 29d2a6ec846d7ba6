/-!
# Natural numbers in texts

* **Writing** (`decimal`): decimal digits without leading zeros.
* **Reading** (`natural64?`): decimal digits after an optional plus sign, with a value below `2 ^ 64`.
-/

namespace Wireframe.Text

def decimal (n : Nat) : String := String.ofList (Nat.toDigits 10 n)

def isDigit (c : Char) : Bool := '0' ≤ c && c ≤ '9'

def ofDigits (ds : List Char) : Nat := ds.foldl (fun n c => n * 10 + (c.toNat - 48)) 0

/-- A text of digits only, as a number below `2 ^ 64`. -/
def digits64? (ds : List Char) : Option Nat :=
  if ds.isEmpty = false ∧ ds.all isDigit = true ∧ ofDigits ds < Nat.pow 2 64 then some (ofDigits ds) else none

/-- The number below `2 ^ 64` that a text spells, with or without a plus sign. -/
def natural64? : List Char → Option Nat
  | '+' :: ds => digits64? ds
  | ds => digits64? ds

end Wireframe.Text
