/-!
# Binary floating-point numbers of 64 bits

* **Values** (`Binary64`): a sign, a significand below `2 ^ 53` and a power of two; infinities and NaN have no place
  in the texts of this library and are left out.
* **Rounding** (`ofRatio?`): the value nearest to a quotient of natural numbers, ties to an even significand; a
  quotient beyond the largest value has none.
* **Scaling** (`mulPow10?`, `divPow10?`): products and quotients by powers of ten, each rounded on its own.
-/

namespace Wireframe

/-- A finite number of 64 bits: `significand * 2 ^ exponent`, with its sign. -/
structure Binary64 where
  negative : Bool
  significand : Nat
  exponent : Int
deriving DecidableEq, Repr

namespace Binary64

/-- The smallest exponent, that of the subnormal numbers. -/
def minExponent : Int := -1074

def maxExponent : Int := 971

def zero (negative : Bool) : Binary64 := ⟨negative, 0, minExponent⟩

def isZero (x : Binary64) : Bool := x.significand == 0

/-- `num / den` to the nearest integer, a half to the even one. -/
def divNearest (num den : Nat) : Nat :=
  let q := num / den
  let r := num % den
  if 2 * r < den then q else if den < 2 * r then q + 1 else q + q % 2

/-- The nonnegative integer nearest to `num / den / 2 ^ exponent`. -/
def scaled (num den : Nat) (exponent : Int) : Nat :=
  if 0 ≤ exponent then divNearest num (den * Nat.pow 2 exponent.toNat)
  else divNearest (num * Nat.pow 2 (-exponent).toNat) den

/-- The exponent that gives the quotient `num / den` a significand of 53 bits, or the least exponent. -/
def exponentOf (num den : Nat) : Int :=
  let e : Int := (num.log2 : Int) - (den.log2 : Int) - 52
  let fits : Bool :=
    if 0 ≤ e then den * Nat.pow 2 (52 + e.toNat) ≤ num else den * Nat.pow 2 52 ≤ num * Nat.pow 2 (-e).toNat
  max minExponent (if fits then e else e - 1)

/-- The number nearest to `num / den`, or nothing if that is beyond the largest number. -/
def ofRatio? (num den : Nat) : Option Binary64 :=
  if num = 0 then some (zero false)
  else
    let e := exponentOf num den
    let m := scaled num den e
    let (m, e) := if m = Nat.pow 2 53 then (Nat.pow 2 52, e + 1) else (m, e)
    if maxExponent < e then none else some ⟨false, m, e⟩

/-- The quotient of natural numbers whose value is that of the number without its sign. -/
def ratio (x : Binary64) : Nat × Nat :=
  if 0 ≤ x.exponent then (x.significand * Nat.pow 2 x.exponent.toNat, 1)
  else (x.significand, Nat.pow 2 (-x.exponent).toNat)

/-- The number nearest to a natural number below `2 ^ 64`. -/
def ofNat (n : Nat) : Binary64 := (ofRatio? n 1).getD (zero false)

/-- The number nearest to a power of ten; powers above the 308th do not occur. -/
def pow10 (k : Nat) : Binary64 := ofNat (Nat.pow 10 k)

/-- The product with a power of ten, or nothing if it is beyond the largest number. -/
def mulPow10? (x : Binary64) (k : Nat) : Option Binary64 :=
  let (a, b) := x.ratio
  let (c, d) := (pow10 k).ratio
  ofRatio? (a * c) (b * d)

/-- The quotient by a power of ten. -/
def divPow10 (x : Binary64) (k : Nat) : Binary64 :=
  let (a, b) := x.ratio
  let (c, d) := (pow10 k).ratio
  (ofRatio? (a * d) (b * c)).getD (zero false)

/-- The quotient by `10 ^ k`, in steps of at most 308 places. -/
def scaleDown (x : Binary64) (k : Nat) : Binary64 :=
  if k ≤ 308 then x.divPow10 k
  else if x.isZero then x
  else (x.divPow10 308).scaleDown (k - 308)
termination_by k

/-- The number that digits and a power of ten spell: the digits are rounded first, then their product with the power. -/
def ofDigits? (negative : Bool) (significand : Nat) (power : Int) : Option Binary64 :=
  let x := ofNat significand
  let y : Option Binary64 :=
    if power < 0 then some (x.scaleDown (-power).toNat)
    else if power ≤ 308 then x.mulPow10? power.toNat
    else if x.isZero then some x
    else none
  y.map fun y => { y with negative }

end Binary64

end Wireframe
