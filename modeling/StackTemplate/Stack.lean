import StackTemplate.Stack.Cms
import StackTemplate.Stack.Consul
import StackTemplate.Stack.Gateway
import StackTemplate.Stack.Lambda
import StackTemplate.Stack.RdsBackup
import StackTemplate.Stack.Vault
import StackTemplate.Stack.Vpc

namespace StackTemplate

inductive Stack where
  | vpc | consul | lambda | gateway | cms | vault | rdsBackup
  deriving DecidableEq, Repr

structure UnknownStack where
  name : String
  deriving DecidableEq, Repr

namespace Stack

def all : List Stack := [.vpc, .consul, .lambda, .gateway, .cms, .vault, .rdsBackup]

def name : Stack → String
  | .vpc => "vpc"
  | .consul => "consul"
  | .lambda => "lambda"
  | .gateway => "gateway"
  | .cms => "cms"
  | .vault => "vault"
  | .rdsBackup => "rds-backup"

def names : List String := all.map name

def fileName (stack : Stack) : String := stack.name ++ ".json"

def description : Stack → String
  | .vpc => Vpc.description
  | .consul => Consul.description
  | .lambda => Lambda.description
  | .gateway => Gateway.description
  | .cms => Cms.description
  | .vault => Vault.description
  | .rdsBackup => RdsBackup.description

def draft (stack : Stack) (settings : Settings) : Drafting Unit :=
  match stack with
  | .vpc => Vpc.draft settings
  | .consul => Consul.draft settings
  | .lambda => Lambda.draft settings
  | .gateway => Gateway.draft settings
  | .cms => Cms.draft settings
  | .vault => Vault.draft settings
  | .rdsBackup => RdsBackup.draft settings

def build (stack : Stack) (settings : Settings) : Except DocumentError Document :=
  match (stack.draft settings).on (.new stack.description) with
  | (.ok (), doc) => .ok doc
  | (.error e, _) => .error e

def sameLetters (a b : String) : Bool := a.toList.map Char.toLower == b.toList.map Char.toLower

def named? (name : String) : Option Stack := all.find? fun stack => sameLetters stack.name name

def named (name : String) : Except UnknownStack Stack :=
  match named? name with
  | some stack => .ok stack
  | none => .error ⟨name⟩

def line (stack : Stack) : String :=
  let gap := String.ofList (List.replicate (8 - stack.name.length) ' ')
  s!"{stack.name}{gap} {stack.description}  ({stack.fileName})\n"

def listing : String := String.join (all.map line)

end Stack

def UnknownStack.message (error : UnknownStack) : String :=
  s!"Unknown stack '{error.name}' (available: " ++ ", ".intercalate Stack.names ++ ")"

end StackTemplate
