import StackTemplate.Binary64.Nearest
import StackTemplate.Toml
import StackTemplate.Toml.Text

namespace StackTemplate.Toml

open Binary64 (digitsValue splitSign ofDecimal infinity nan)

def fixedDigits (count low high : Nat) : Reader Nat := fun input =>
  let digits := input.take count
  let value := digitsValue digits
  if digits.length = count ∧ digits.all Char.isDigit ∧ low ≤ value ∧ value ≤ high then
    some (value, input.drop count)
  else none

def isLeapYear (year : Nat) : Bool := year % 4 = 0 && (year % 100 ≠ 0 || year % 400 = 0)

def daysInMonth (year month : Nat) : Nat :=
  if month = 2 then (if isLeapYear year then 29 else 28)
  else if month ∈ [4, 6, 9, 11] then 30
  else 31

def date (input : List Char) : Option (List Char) := do
  let (year, rest) ← fixedDigits 4 0 9999 input
  let (month, rest) ← fixedDigits 2 1 12 (← expect '-' rest)
  let (_, rest) ← fixedDigits 2 1 (daysInMonth year month) (← expect '-' rest)
  some rest

def skipFraction : List Char → List Char
  | '.' :: d :: rest => if d.isDigit then rest.dropWhile Char.isDigit else '.' :: d :: rest
  | input => input

-- A time of day; what it leaves. The sixtieth second is for leap seconds.
def time (input : List Char) : Option (List Char) := do
  let (_, rest) ← fixedDigits 2 0 23 input
  let (_, rest) ← fixedDigits 2 0 59 (← expect ':' rest)
  let (_, rest) ← fixedDigits 2 0 60 (← expect ':' rest)
  some (skipFraction rest)

def skipOffset : List Char → List Char
  | 'Z' :: rest => rest
  | 'z' :: rest => rest
  | sign :: rest =>
    let offset : Option (List Char) := do
      let (_, rest) ← fixedDigits 2 0 23 rest
      let (_, rest) ← fixedDigits 2 0 59 (← expect ':' rest)
      some rest
    if sign = '+' || sign = '-' then offset.getD (sign :: rest) else sign :: rest
  | [] => []

def dateOrTime (input : List Char) : Option (List Char) :=
  match date input with
  | none => time input
  | some [] => some []
  | some (separator :: rest) =>
    if separator = 'T' || separator = 't' || separator = ' ' then
      some ((time rest).elim (separator :: rest) skipOffset)
    else some (separator :: rest)

def momentValue : Reader Toml := fun input =>
  (dateOrTime input).map fun rest =>
    (.datetime (String.ofList (input.take (input.length - rest.length))), rest)

def moreDigits (isDigit : Char → Bool) : List Char → List Char × List Char
  | '_' :: d :: rest =>
    if isDigit d then
      let (digits, rest) := moreDigits isDigit rest
      (d :: digits, rest)
    else ([], '_' :: d :: rest)
  | d :: rest =>
    if isDigit d then
      let (digits, rest) := moreDigits isDigit rest
      (d :: digits, rest)
    else ([], d :: rest)
  | [] => ([], [])

def digits (isDigit : Char → Bool) : Reader (List Char)
  | d :: rest =>
    if isDigit d then
      let (others, rest) := moreDigits isDigit rest
      some (d :: others, rest)
    else none
  | [] => none

def wholeDigits : Reader (List Char)
  | '0' :: rest => some (['0'], rest)
  | input => digits Char.isDigit input

def exponent : Reader Int
  | e :: rest => do
    if e ≠ 'e' ∧ e ≠ 'E' then none
    let (down, rest) := splitSign rest
    let (amount, rest) ← digits Char.isDigit rest
    some (if down then -(digitsValue amount : Int) else digitsValue amount, rest)
  | [] => none

def specialFloat (negative : Bool) : Reader Toml
  | 'i' :: 'n' :: 'f' :: rest => some (.float (infinity negative), rest)
  | 'n' :: 'a' :: 'n' :: rest => some (.float nan, rest)
  | _ => none

-- A number too large for a finite one is refused, though only above zero.
-- A decimal with a fraction, an exponent or both.
def decimalFloat (negative : Bool) : Reader Toml := fun input => do
  let (whole, rest) ← wholeDigits input
  let (fractional, power, rest) ← match rest with
    | '.' :: rest => do
      let (fractional, rest) ← digits Char.isDigit rest
      let (power, rest) := (exponent rest).getD (0, rest)
      some (fractional, power, rest)
    | rest => do
      let (power, rest) ← exponent rest
      some (([] : List Char), power, rest)
  let value := ofDecimal negative (digitsValue (whole ++ fractional)) (power - fractional.length)
  if value = infinity false then none else some (.float value, rest)

def integerOf (value : Int) (rest : List Char) : Option (Toml × List Char) :=
  if -9223372036854775808 ≤ value ∧ value ≤ 9223372036854775807 then some (.integer value, rest)
  else none

def wholeNumber : Reader Toml
  | '0' :: 'x' :: rest => do
    let (ds, rest) ← digits isHexDigit rest
    integerOf (valueInBase 16 ds) rest
  | '0' :: 'o' :: rest => do
    let (ds, rest) ← digits (fun c => '0' ≤ c && c ≤ '7') rest
    integerOf (valueInBase 8 ds) rest
  | '0' :: 'b' :: rest => do
    let (ds, rest) ← digits (fun c => c = '0' || c = '1') rest
    integerOf (valueInBase 2 ds) rest
  | input => do
    let (negative, rest) := splitSign input
    let (ds, rest) ← wholeDigits rest
    integerOf (if negative then -(digitsValue ds : Int) else digitsValue ds) rest

def number : Reader Toml := fun input =>
  let (negative, unsigned) := splitSign input
  momentValue input <|> decimalFloat negative unsigned <|> specialFloat negative unsigned
    <|> wholeNumber input

def scalar : Reader Toml := fun input =>
  match input with
  | 't' :: 'r' :: 'u' :: 'e' :: rest => some (.boolean true, rest)
  | 'f' :: 'a' :: 'l' :: 's' :: 'e' :: rest => some (.boolean false, rest)
  | c :: _ =>
    if c = '"' || c = '\'' then (quotedText input).map fun (text, rest) => (.string text, rest)
    else number input
  | [] => none

end StackTemplate.Toml
