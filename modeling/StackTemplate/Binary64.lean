namespace StackTemplate

structure Binary64 where
  bits : UInt64
  deriving DecidableEq, Repr, Inhabited

namespace Binary64

def twoPow (n : Nat) : Nat := Nat.pow 2 n
def tenPow (n : Nat) : Nat := Nat.pow 10 n

def word (x : Binary64) : Nat := x.bits.toNat

def isNegative (x : Binary64) : Bool := decide (twoPow 63 ≤ x.word)

def exponentField (x : Binary64) : Nat := x.word / twoPow 52 % twoPow 11

def fraction (x : Binary64) : Nat := x.word % twoPow 52

def isFinite (x : Binary64) : Bool := x.exponentField != 2047

def isNaN (x : Binary64) : Bool := x.exponentField == 2047 && x.fraction != 0

def isZero (x : Binary64) : Bool := x.exponentField == 0 && x.fraction == 0

-- The fraction with its leading bit, which the pattern leaves out of normal numbers.
def significand (x : Binary64) : Nat :=
  if x.exponentField = 0 then x.fraction else twoPow 52 + x.fraction

def scale (x : Binary64) : Int := (max x.exponentField 1 : Nat) - 1075

-- Equality of the numbers: a NaN equals nothing, and the two zeros are one number.
def sameNumber (x y : Binary64) : Bool :=
  !x.isNaN && !y.isNaN && (x == y || x.isZero && y.isZero)

def ofMagnitude (negative : Bool) (magnitude : Nat) : Binary64 :=
  ⟨UInt64.ofNat (if negative then twoPow 63 + magnitude else magnitude)⟩

def infinityMagnitude : Nat := 2047 * twoPow 52

def nan : Binary64 := ofMagnitude false (infinityMagnitude + twoPow 51)

def infinity (negative : Bool) : Binary64 := ofMagnitude negative infinityMagnitude

end Binary64

end StackTemplate
