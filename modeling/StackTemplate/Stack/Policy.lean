import StackTemplate.Document

namespace StackTemplate.Policy

def languageVersion : Value := "2012-10-17"

def texts (words : List String) : Value := .list (words.map .string)

def assumedBy (service : String) : Value :=
  .map [("Version", languageVersion),
    ("Statement", .list [.map [("Effect", "Allow"),
      ("Principal", .map [("Service", texts [service])]),
      ("Action", texts ["sts:AssumeRole"])]])]

def allow (actions : List String) (resource : Value) : Value :=
  .map [("Effect", "Allow"), ("Action", texts actions), ("Resource", resource)]

def grant (sid : String) (principal : Value) (actions : List String) (resources : Value) : Value :=
  .map [("Sid", sid), ("Effect", "Allow"), ("Principal", principal), ("Action", texts actions),
    ("Resource", resources)]

def accounts (names : List Value) : Value := .map [("AWS", .list names)]

def document (statements : List Value) : Value :=
  .map [("Version", languageVersion), ("Statement", .list statements)]

def inRole (name : String) (statements : List Value) : Value :=
  .map [("PolicyName", name), ("PolicyDocument", .map [("Statement", .list statements)])]

def roleProperties (service : String) (policies : List Value) : Entries Value :=
  [("AssumeRolePolicyDocument", assumedBy service), ("Policies", .list policies), ("Path", "/")]

def role (id : LogicalId) (service : String) (policies : List Value) : Drafting ResourceHandle :=
  Document.declareResource id "AWS::IAM::Role" (roleProperties service policies)

def bucketName (bucket : Value) (path : String) : Value :=
  .join "" ([.string "arn:aws:s3:::", bucket] ++ if path.isEmpty then [] else [Value.string path])

end StackTemplate.Policy
