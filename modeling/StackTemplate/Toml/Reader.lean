namespace StackTemplate.Toml

abbrev Reader (α : Type) := List Char → Option (α × List Char)

def collectWithin {α : Type} (step : Reader (Option α)) : (fuel : Nat) → Reader (List α)
  | 0, _ => none
  | fuel + 1, input => do
    let (piece, rest) ← step input
    match piece with
    | none => some ([], rest)
    | some first => do
      let (others, rest) ← collectWithin step fuel rest
      some (first :: others, rest)

-- A step reads at least one character or ends the loop, so the text's length bounds it.
-- Repeats a step until it returns `none` and collects what the steps before it read.
def collect {α : Type} (step : Reader (Option α)) : Reader (List α) := fun input =>
  collectWithin step (input.length + 1) input

def expect (c : Char) : List Char → Option (List Char)
  | d :: rest => if c = d then some rest else none
  | [] => none

def isBlank (c : Char) : Bool := c = ' ' || c = '\t'

def skipBlanks (input : List Char) : List Char := input.dropWhile isBlank

def newLine? : List Char → Option (List Char)
  | '\n' :: rest => some rest
  | '\r' :: '\n' :: rest => some rest
  | _ => none

def isPlain (c : Char) : Bool := c = '\t' || (0x20 ≤ c.toNat && c.toNat ≠ 0x7f)

def skipComment : List Char → List Char
  | '#' :: rest => rest.dropWhile isPlain
  | input => input

def endOfLine (input : List Char) : Option (List Char) :=
  match skipComment (skipBlanks input) with
  | [] => some []
  | rest => newLine? rest

def skipBlankLines : List Char → List Char
  | ' ' :: rest => skipBlankLines rest
  | '\t' :: rest => skipBlankLines rest
  | '\n' :: rest => skipBlankLines rest
  | '\r' :: '\n' :: rest => skipBlankLines rest
  | input => input

-- Inside an array comments may stand on their own lines; one that the text breaks off in
-- belongs to no array that is ever closed.
def skipSpaceWithin : (fuel : Nat) → List Char → Option (List Char)
  | 0, _ => none
  | fuel + 1, input =>
    match skipBlankLines input with
    | '#' :: rest => do
      let rest ← newLine? (rest.dropWhile isPlain)
      skipSpaceWithin fuel rest
    | rest => some rest

def skipSpace (input : List Char) : Option (List Char) := skipSpaceWithin (input.length + 1) input

end StackTemplate.Toml
