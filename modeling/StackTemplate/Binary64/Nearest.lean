import StackTemplate.Binary64

namespace StackTemplate.Binary64

-- The natural number nearest to `num / den`, the even one of two.
def roundQuotient (num den : Nat) : Nat :=
  let low := num / den
  let twice := 2 * (num % den)
  if twice < den || (twice == den && low % 2 == 0) then low else low + 1

def scaledRatio (num den : Nat) (power : Int) : Nat × Nat :=
  (num * twoPow (-power).toNat, den * twoPow power.toNat)

-- The binary exponent is guessed from the lengths of the two numbers, which is one too
-- small at most; the rounded significand and the exponent field then add up to the bit
-- pattern, so a significand that rounds up to the next power of two needs no care.
-- The 63 bits nearest to the positive number `num / den`.
def nearestMagnitude (num den : Nat) : Nat :=
  let guess : Int := max ((Nat.log2 num : Int) - Nat.log2 den - 53) (-1074)
  let (a, b) := scaledRatio num den guess
  let power := if a / b < twoPow 53 then guess else guess + 1
  let (a, b) := scaledRatio num den power
  min ((power + 1074).toNat * twoPow 52 + roundQuotient a b) infinityMagnitude

def digitsValue (digits : List Char) : Nat :=
  digits.foldl (fun value digit => 10 * value + (digit.toNat - '0'.toNat)) 0

def decimalDigits (n : Nat) : List Char := Nat.toDigits 10 n

-- Every number of at least 10^310 is infinite and every number below 10^-330 rounds to
-- zero, so no power of ten outside these bounds is ever computed.
-- The number nearest to `coefficient * 10 ^ exponent`, with the given sign.
def ofDecimal (negative : Bool) (coefficient : Nat) (exponent : Int) : Binary64 :=
  let places : Int := (decimalDigits coefficient).length + exponent
  let magnitude :=
    if coefficient = 0 || places < -330 then 0
    else if 310 < places then infinityMagnitude
    else nearestMagnitude (coefficient * tenPow exponent.toNat) (tenPow (-exponent).toNat)
  ofMagnitude negative magnitude

def splitSign : List Char → Bool × List Char
  | '-' :: rest => (true, rest)
  | '+' :: rest => (false, rest)
  | rest => (false, rest)

def ofText? (text : List Char) : Option Binary64 :=
  let (negative, body) := splitSign text
  if body = ['i', 'n', 'f'] then some (infinity negative)
  else if body = ['N', 'a', 'N'] || body = ['n', 'a', 'n'] then some nan
  else
    let whole := body.takeWhile Char.isDigit
    let rest := body.dropWhile Char.isDigit
    let (fractional, rest) := match rest with
      | '.' :: more => (more.takeWhile Char.isDigit, more.dropWhile Char.isDigit)
      | other => ([], other)
    if whole.isEmpty && fractional.isEmpty then none
    else
      let coefficient := digitsValue (whole ++ fractional)
      let shift : Int := -(fractional.length : Int)
      match rest with
      | [] => some (ofDecimal negative coefficient shift)
      | e :: power =>
        let (down, digits) := splitSign power
        if (e = 'e' || e = 'E') && !digits.isEmpty && digits.all Char.isDigit then
          let amount : Int := digitsValue digits
          some (ofDecimal negative coefficient (shift + if down then -amount else amount))
        else none

end StackTemplate.Binary64
