import Wireframe.Number.Binary64

/-!
# The shortest decimal text of a number

* **Digits** (`Binary64.digits`): the fewest decimal digits that read back as the same number and, of those, the
  nearest ones; an exact tie takes the even digits.
* **Layout** (`DecimalLayout`): which exponents are written positionally, and how the others look.
* **Text** (`Binary64.text`): the digits in the layout of this library, `1.0`, `0.00001`, `1e+16`, `1.5e-7`.
-/

namespace Wireframe.Binary64

/-- The reals that round to a positive number, as bounds over a common denominator, and whether the bounds belong to
them. -/
structure Interval where
  low : Nat
  value : Nat
  high : Nat
  den : Nat
  closed : Bool

/-- The interval of a positive number. Below a power of two the gap to the next number is half as wide. -/
def interval (x : Binary64) : Interval :=
  let m := x.significand
  let closed := m % 2 == 0
  let below := if m = Nat.pow 2 52 ∧ minExponent < x.exponent then 1 else 2
  let (unit, den) := if 0 ≤ x.exponent then (Nat.pow 2 x.exponent.toNat, 4) else (1, 4 * Nat.pow 2 (-x.exponent).toNat)
  ⟨(4 * m - below) * unit, 4 * m * unit, (4 * m + 2) * unit, den, closed⟩

/-- Whether `num / den` rounds to the number of the interval. -/
def Interval.holds (i : Interval) (num den : Nat) : Bool :=
  let l := i.low * den
  let v := num * i.den
  let h := i.high * den
  if i.closed then l ≤ v && v ≤ h else l < v && v < h

/-- The point of the grid of step `10 ^ power` that is nearest to the value, if one of its two neighbours on the grid
reads back. -/
def Interval.onGrid? (i : Interval) (power : Int) : Option Nat :=
  let (num, den) : Nat × Nat :=
    if 0 ≤ power then (i.value, i.den * Nat.pow 10 power.toNat) else (i.value * Nat.pow 10 (-power).toNat, i.den)
  let point (n : Nat) : Bool :=
    if 0 ≤ power then i.holds (n * Nat.pow 10 power.toNat) 1 else i.holds n (Nat.pow 10 (-power).toNat)
  let low := num / den
  let rest := num % den
  let low? := 0 < low && point low
  let high? := point (low + 1)
  match low?, high? with
  | false, false => none
  | true, false => some low
  | false, true => some (low + 1)
  | true, true => some (if 2 * rest < den then low else if den < 2 * rest then low + 1 else low + low % 2)

/-- The place of the first decimal digit of `num / den`, where the place of the units is 0. -/
def firstPlace (num den : Nat) : Int :=
  if den ≤ num then ((Nat.toDigits 10 (num / den)).length : Int) - 1
  else
    let k := (Nat.toDigits 10 (den / num)).length
    if den ≤ num * Nat.pow 10 (k - 1) then -((k : Int) - 1) else -(k : Int)

/-- The first grid that holds a number which reads back, from coarse to fine. -/
def searchGrid (i : Interval) (place : Int) : Nat → Nat × Int
  | 0 => (0, 0)
  | fuel + 1 =>
    match i.onGrid? place with
    | some n => (n, place)
    | none => searchGrid i (place - 1) fuel

/-- The digits without zeros at their end, and the place of the last one. -/
def stripZeros (n : Nat) (place : Int) : Nat → Nat × Int
  | 0 => (n, place)
  | fuel + 1 => if n ≠ 0 ∧ n % 10 = 0 then stripZeros (n / 10) (place + 1) fuel else (n, place)

/-- The shortest digits that read back, as an integer and the place of its last digit. -/
def digits (x : Binary64) : Nat × Int :=
  if x.isZero then (0, 0)
  else
    let i := x.interval
    let (n, place) := searchGrid i (firstPlace i.value i.den) 19
    stripZeros n place 20

/-- How decimal digits are laid out. -/
structure DecimalLayout where
  /-- The least and the greatest decimal exponent that is written positionally. -/
  positional : Int × Int
  /-- What follows an integer written positionally. -/
  integerTail : List Char
  /-- What stands before a power of ten that is not negative. -/
  powerMark : List Char
  /-- What stands before a negative power of ten. -/
  negativePowerMark : List Char

/-- Numbers from `1e-5` to below `1e16` are positional and always have a fraction; the others have a signed power. -/
def layout : DecimalLayout := ⟨(-5, 15), ['.', '0'], ['e', '+'], ['e', '-']⟩

/-- Digits and the place of the last one, in a layout. -/
def DecimalLayout.write (l : DecimalLayout) (n : Nat) (place : Int) : List Char :=
  let ds := Nat.toDigits 10 n
  let e : Int := place + (ds.length - 1 : Nat)
  if l.positional.1 ≤ e ∧ e ≤ l.positional.2 then
    if 0 ≤ place then ds ++ List.replicate place.toNat '0' ++ l.integerTail
    else if 0 ≤ e then ds.take (e.toNat + 1) ++ '.' :: ds.drop (e.toNat + 1)
    else '0' :: '.' :: List.replicate ((-e).toNat - 1) '0' ++ ds
  else
    let tail := ds.drop 1
    ds.take 1 ++ (if tail.isEmpty then [] else '.' :: tail) ++
      (if 0 ≤ e then l.powerMark ++ Nat.toDigits 10 e.toNat else l.negativePowerMark ++ Nat.toDigits 10 (-e).toNat)

def text (x : Binary64) : List Char :=
  let (n, place) := x.digits
  (if x.negative then ['-'] else []) ++ layout.write n place

end Wireframe.Binary64
