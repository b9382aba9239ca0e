import StackTemplate.Binary64

namespace StackTemplate

inductive Toml where
  | string (text : String)
  | integer (value : Int)
  | float (value : Binary64)
  | boolean (value : Bool)
  | datetime (text : String)
  | array (items : List Toml)
  | tables (rows : List Toml)
  | table (entries : List (String × Toml))
  deriving Inhabited

def Toml.items? : Toml → Option (List Toml)
  | .array items => some items
  | .tables rows => some rows
  | _ => none

end StackTemplate
