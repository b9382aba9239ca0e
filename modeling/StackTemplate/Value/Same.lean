import StackTemplate.Value

namespace StackTemplate

def Number.same : Number → Number → Bool
  | .int a, .int b => a == b
  | .float a, .float b => a.sameNumber b
  | _, _ => false

mutual

def Value.same : Value → Value → Bool
  | .string a, .string b => a == b
  | .number a, .number b => a.same b
  | .bool a, .bool b => a == b
  | .list as, .list bs => Value.sameItems as bs
  | .map as, .map bs => as.length == bs.length && Value.sameEntries as bs
  | .ref a, .ref b => a == b
  | .getAtt a x, .getAtt b y => a == b && x == y
  | .pseudo a, .pseudo b => a == b
  | .join s as, .join t bs => s == t && Value.sameItems as bs
  | .choose c a b, .choose d x y => c == d && a.same x && b.same y
  | .equals a b, .equals x y => a.same x && b.same y
  | .base64 a, .base64 b => a.same b
  | _, _ => false

def Value.sameItems : List Value → List Value → Bool
  | [], [] => true
  | a :: as, b :: bs => a.same b && Value.sameItems as bs
  | _, _ => false

def Value.sameEntries : List (String × Value) → List (String × Value) → Bool
  | [], _ => true
  | (key, a) :: as, other =>
    (match Entries.find? other key with
      | some b => a.same b
      | none => false) && Value.sameEntries as other

end

end StackTemplate
