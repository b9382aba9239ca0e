import StackTemplate.Binary64.Shortest
import StackTemplate.Value

namespace StackTemplate

inductive Json where
  | string (text : String)
  | number (value : Number)
  | bool (value : Bool)
  | array (items : List Json)
  | object (members : List (String × Json))
  deriving Inhabited

namespace Json

def hexDigit (n : Nat) : Char := Nat.digitChar n

-- A character inside a string literal. Only the quote, the backslash and the characters below
-- the space are escaped.
def escape (c : Char) : List Char :=
  if c = '"' then ['\\', '"']
  else if c = '\\' then ['\\', '\\']
  else if c.toNat < 0x20 then
    match c.toNat with
    | 0x08 => ['\\', 'b']
    | 0x09 => ['\\', 't']
    | 0x0a => ['\\', 'n']
    | 0x0c => ['\\', 'f']
    | 0x0d => ['\\', 'r']
    | n => ['\\', 'u', '0', '0', hexDigit (n / 16), hexDigit (n % 16)]
  else [c]

def quoted (text : String) : List Char := '"' :: (text.toList.flatMap escape ++ ['"'])

def numberText : Number → List Char
  | .int n => (toString n).toList
  | .float x => x.text

def boolText (b : Bool) : List Char := (toString b).toList

mutual

def compact : Json → List Char
  | .string text => quoted text
  | .number n => numberText n
  | .bool b => boolText b
  | .array [] => ['[', ']']
  | .array (v :: vs) => '[' :: (compact v ++ (compactItems vs ++ [']']))
  | .object [] => ['{', '}']
  | .object ((key, v) :: vs) =>
    '{' :: (quoted key ++ ':' :: (compact v ++ (compactMembers vs ++ ['}'])))

def compactItems : List Json → List Char
  | [] => []
  | v :: vs => ',' :: (compact v ++ compactItems vs)

def compactMembers : List (String × Json) → List Char
  | [] => []
  | (key, v) :: vs => ',' :: (quoted key ++ ':' :: (compact v ++ compactMembers vs))

end

def newLine (level : Nat) : List Char := '\n' :: List.replicate (2 * level) ' '

mutual

def pretty (level : Nat) : Json → List Char
  | .string text => quoted text
  | .number n => numberText n
  | .bool b => boolText b
  | .array [] => ['[', ']']
  | .array (v :: vs) =>
    '[' :: (newLine (level + 1) ++ (pretty (level + 1) v ++
      (prettyItems (level + 1) vs ++ (newLine level ++ [']']))))
  | .object [] => ['{', '}']
  | .object ((key, v) :: vs) =>
    '{' :: (newLine (level + 1) ++ (quoted key ++ ':' :: ' ' :: (pretty (level + 1) v ++
      (prettyMembers (level + 1) vs ++ (newLine level ++ ['}'])))))

def prettyItems (level : Nat) : List Json → List Char
  | [] => []
  | v :: vs => ',' :: (newLine level ++ (pretty level v ++ prettyItems level vs))

def prettyMembers (level : Nat) : List (String × Json) → List Char
  | [] => []
  | (key, v) :: vs =>
    ',' :: (newLine level ++ (quoted key ++ ':' :: ' ' :: (pretty level v ++ prettyMembers level vs)))

end

def text (indented : Bool) (tree : Json) : String :=
  String.ofList (if indented then tree.pretty 0 else tree.compact)

end Json

end StackTemplate
