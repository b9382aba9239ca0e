import StackTemplate.Binary64.Nearest

namespace StackTemplate.Binary64

structure Decimal where
  coefficient : Nat
  exponent : Int
  deriving DecidableEq, Repr, Inhabited

-- Which of two equally near grid points stands for a number: the even one, or the larger one.
inductive Tie where
  | toEven | up
  deriving DecidableEq, Repr

def Tie.goesDown : Tie → (floor : Nat) → Bool
  | .toEven, floor => floor % 2 == 0
  | .up, _ => false

-- The interval of a finite number in quarters of its last place: low end, centre, high end.
-- Just above a power of two the next smaller number is only half as far away.
def roundingInterval (x : Binary64) : Nat × Nat × Nat :=
  let centre := 4 * x.significand
  let below := if x.fraction = 0 ∧ 1 < x.exponentField then 1 else 2
  (centre - below, centre, centre + 2)

-- Grid points `c * 10 ^ exponent` and quarters `b * 2 ^ (scale - 2)` are compared after both
-- have been brought to one natural unit.
-- Natural weights of a grid step and of a quarter of the last place.
def commonUnits (x : Binary64) (exponent : Int) : Nat × Nat :=
  let power := x.scale - 2
  (tenPow exponent.toNat * twoPow (-power).toNat, twoPow power.toNat * tenPow (-exponent).toNat)

def gridPoint? (tie : Tie) (x : Binary64) (exponent : Int) : Option Nat :=
  let (low, centre, high) := x.roundingInterval
  let (step, quarter) := x.commonUnits exponent
  let inside (c : Nat) : Bool :=
    if x.significand % 2 = 0 then low * quarter ≤ c * step && c * step ≤ high * quarter
    else low * quarter < c * step && c * step < high * quarter
  let floor := centre * quarter / step
  match inside floor, inside (floor + 1) with
  | false, false => none
  | true, false => some floor
  | false, true => some (floor + 1)
  | true, true =>
    let twice := 2 * centre * quarter
    let middle := (2 * floor + 1) * step
    if twice < middle || (twice == middle && tie.goesDown floor) then some floor
    else some (floor + 1)

def leadingPlace (x : Binary64) : Int :=
  let lifted := x.significand * twoPow x.scale.toNat * tenPow 400 / twoPow (-x.scale).toNat
  (decimalDigits lifted).length - 400

def trimZeros : Nat → Decimal → Decimal
  | 0, d => d
  | fuel + 1, d =>
    if d.coefficient % 10 = 0 ∧ d.coefficient ≠ 0 then
      trimZeros fuel ⟨d.coefficient / 10, d.exponent + 1⟩
    else d

-- The shortest decimal of a finite number other than zero. Seventeen digits always suffice.
def shortest (tie : Tie) (x : Binary64) : Decimal :=
  let place := x.leadingPlace
  let found := (List.range 17).findSome? fun n =>
    (gridPoint? tie x (place - (n + 1 : Nat))).map fun c => (⟨c, place - (n + 1 : Nat)⟩ : Decimal)
  trimZeros 20 (found.getD ⟨0, 0⟩)

namespace Decimal

def digits (d : Decimal) : List Char := decimalDigits d.coefficient

def point (d : Decimal) : Int := d.digits.length + d.exponent

def positional (d : Decimal) : List Char :=
  let place := d.point
  if place ≤ 0 then '0' :: '.' :: List.replicate (-place).toNat '0' ++ d.digits
  else if d.digits.length ≤ place.toNat then
    d.digits ++ List.replicate (place.toNat - d.digits.length) '0' ++ ['.', '0']
  else d.digits.take place.toNat ++ '.' :: d.digits.drop place.toNat

def scientific (d : Decimal) : List Char :=
  let power := d.point - 1
  let mark := if power < 0 then '-' else '+'
  let mantissa := match d.digits with
    | first :: second :: rest => first :: '.' :: second :: rest
    | few => few
  mantissa ++ 'e' :: mark :: decimalDigits power.natAbs

end Decimal

def written (tie : Tie) (body : Decimal → List Char) (x : Binary64) : List Char :=
  if x.isNaN then ['N', 'a', 'N']
  else
    let magnitude :=
      if !x.isFinite then ['i', 'n', 'f']
      else if x.isZero then ['0', '.', '0']
      else body (shortest tie x)
    if x.isNegative then '-' :: magnitude else magnitude

def text (x : Binary64) : List Char :=
  x.written .toEven fun d => if -4 ≤ d.point ∧ d.point ≤ 16 then d.positional else d.scientific

def positionalText (x : Binary64) : List Char := x.written .up Decimal.positional

end StackTemplate.Binary64
