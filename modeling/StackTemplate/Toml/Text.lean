import StackTemplate.Toml.Reader

namespace StackTemplate.Toml

def isHexDigit (c : Char) : Bool :=
  c.isDigit || ('a' ≤ c && c ≤ 'f') || ('A' ≤ c && c ≤ 'F')

def hexDigitValue (c : Char) : Nat :=
  if c.isDigit then c.toNat - '0'.toNat else c.toLower.toNat - 'a'.toNat + 10

def valueInBase (base : Nat) (digits : List Char) : Nat :=
  digits.foldl (fun value digit => base * value + hexDigitValue digit) 0

def numberedChar (count : Nat) : Reader Char := fun input =>
  let digits := input.take count
  let code := valueInBase 16 digits
  if digits.length = count ∧ digits.all isHexDigit ∧ code.isValidChar then
    some (Char.ofNat code, input.drop count)
  else none

def escaped : Reader Char
  | 'b' :: rest => some ('\x08', rest)
  | 't' :: rest => some ('\t', rest)
  | 'n' :: rest => some ('\n', rest)
  | 'f' :: rest => some ('\x0c', rest)
  | 'r' :: rest => some ('\r', rest)
  | '"' :: rest => some ('"', rest)
  | '\\' :: rest => some ('\\', rest)
  | 'u' :: rest => numberedChar 4 rest
  | 'U' :: rest => numberedChar 8 rest
  | _ => none

def basicPiece : Reader (Option Char)
  | '"' :: rest => some (none, rest)
  | '\\' :: rest => (escaped rest).map fun (c, rest) => (some c, rest)
  | c :: rest => if isPlain c then some (some c, rest) else none
  | [] => none

def basicString : Reader (List Char) := collect basicPiece

def literalString : Reader (List Char) := fun input =>
  let body := input.takeWhile fun c => isPlain c && c ≠ '\''
  (expect '\'' (input.drop body.length)).map fun rest => (body, rest)

-- One character of a string over several lines, as a line end or an escape may write it. A
-- backslash before a line end joins the lines and writes nothing.
def multilineContent (escapes : Bool) : Reader (Option (List Char)) := fun input =>
  match newLine? input with
  | some rest => some (some ['\n'], rest)
  | none =>
    match input with
    | [] => none
    | c :: rest =>
      if escapes && c = '\\' then
        match newLine? (skipBlanks rest) with
        | some rest => some (some [], skipBlankLines rest)
        | none => (escaped rest).map fun (c, rest) => (some [c], rest)
      else if isPlain c then some (some [c], rest)
      else none

-- Up to two quotes may stand before the three that end the string, so a row of more than
-- five quotes cannot be read.
-- A piece of a string between three quotes on either side, or its end.
def multilinePiece (quote : Char) (escapes : Bool) : Reader (Option (List Char)) := fun input =>
  let row := (input.takeWhile (· = quote)).length
  if row = 0 then multilineContent escapes input
  else if row < 3 then some (some (input.take row), input.drop row)
  else if row = 3 then some (none, input.drop 3)
  else if row ≤ 5 then some (some (input.take (row - 3)), input.drop (row - 3))
  else none

def multilineString (quote : Char) (escapes : Bool) : Reader (List Char) := fun input =>
  (collect (multilinePiece quote escapes) ((newLine? input).getD input)).map
    fun (pieces, rest) => (pieces.flatten, rest)

def quotedText : Reader String := fun input =>
  (match input with
    | '"' :: '"' :: '"' :: rest => multilineString '"' true rest
    | '"' :: rest => basicString rest
    | '\'' :: '\'' :: '\'' :: rest => multilineString '\'' false rest
    | '\'' :: rest => literalString rest
    | _ => none).map fun (body, rest) => (String.ofList body, rest)

def isBareKeyChar (c : Char) : Bool := c.isAlphanum || c = '_' || c = '-'

def simpleKey : Reader String := fun input =>
  (match input with
    | '"' :: rest => basicString rest
    | '\'' :: rest => literalString rest
    | _ =>
      let body := input.takeWhile isBareKeyChar
      if body.isEmpty then none else some (body, input.drop body.length)).map
    fun (body, rest) => (String.ofList body, rest)

def keyTail : Reader (Option String)
  | '.' :: rest => do
    let (name, rest) ← simpleKey (skipBlanks rest)
    some (some name, skipBlanks rest)
  | input => some (none, input)

-- How many parts a key must stay below, and how deep arrays and inline tables may nest.
def depthLimit : Nat := 80

def key : Reader (List String × String) := fun input => do
  let (first, rest) ← simpleKey (skipBlanks input)
  let (others, rest) ← collect keyTail (skipBlanks rest)
  let parts := first :: others
  if parts.length < depthLimit then
    some ((parts.dropLast, parts.getLastD first), rest)
  else none

end StackTemplate.Toml
