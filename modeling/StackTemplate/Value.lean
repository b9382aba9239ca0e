import StackTemplate.Binary64
import StackTemplate.Entries
import StackTemplate.LogicalId

namespace StackTemplate

inductive Number where
  | int (value : Int)
  | float (value : Binary64)
  deriving DecidableEq, Repr

-- Parameters that the engine supplies by itself. `noValue` removes the property it is put into.
inductive Pseudo where
  | accountId | region | stackName | stackId | partition | noValue
  deriving DecidableEq, Repr

namespace Pseudo

def all : List Pseudo := [.accountId, .region, .stackName, .stackId, .partition, .noValue]

-- The engine's name of the parameter. Its colons keep it apart from every logical id.
def token : Pseudo → String
  | .accountId => "AWS::AccountId"
  | .region => "AWS::Region"
  | .stackName => "AWS::StackName"
  | .stackId => "AWS::StackId"
  | .partition => "AWS::Partition"
  | .noValue => "AWS::NoValue"

end Pseudo

inductive Value where
  | string (text : String)
  | number (value : Number)
  | bool (value : Bool)
  | list (items : List Value)
  | map (entries : List (String × Value))
  | ref (target : LogicalId)
  | getAtt (target : LogicalId) (name : String)
  | pseudo (parameter : Pseudo)
  | join (separator : String) (parts : List Value)
  | choose (condition : LogicalId) (whenTrue whenFalse : Value)
  | equals (left right : Value)
  | base64 (inner : Value)
  deriving Inhabited

instance : Coe String Value := ⟨.string⟩
instance : Coe Bool Value := ⟨.bool⟩
instance (n : Nat) : OfNat Value n := ⟨.number (.int n)⟩

namespace Value

def expressionName? : Value → Option String
  | .ref _ => some "Ref"
  | .getAtt _ _ => some "Fn::GetAtt"
  | .pseudo .accountId => some "AccountId"
  | .pseudo .region => some "Region"
  | .pseudo _ => some "pseudo parameter"
  | .join _ _ => some "Fn::Join"
  | .choose _ _ _ => some "Fn::If"
  | .equals _ _ => some "Fn::Equals"
  | .base64 _ => some "Fn::Base64"
  | _ => none

def target? : Value → Option LogicalId
  | .ref target => some target
  | .getAtt target _ => some target
  | .choose condition _ _ => some condition
  | _ => none

def text? : Value → Option String
  | .string text => some text
  | _ => none

end Value

end StackTemplate
