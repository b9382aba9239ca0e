import StackTemplate.Text.Hidden

namespace StackTemplate.Text

def visible (c : Char) : List Char :=
  if c = '"' then ['\\', '"']
  else if c = '\\' then ['\\', '\\']
  else if c = '\n' then ['\\', 'n']
  else if c = '\r' then ['\\', 'r']
  else if c = '\t' then ['\\', 't']
  else if c.toNat = 0 then ['\\', '0']
  else if c.toNat < 0x20 || c.toNat = 0x7f || isHidden c then
    '\\' :: 'u' :: '{' :: (Nat.toDigits 16 c.toNat ++ ['}'])
  else [c]

def quotedVisible (text : String) : String :=
  String.ofList ('"' :: (text.toList.flatMap visible ++ ['"']))

end StackTemplate.Text
