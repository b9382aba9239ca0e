import StackTemplate.Stack.Policy

namespace StackTemplate.Vpc
open Document

def allowEverywhere (name : String) (actions : List String) : Value :=
  Policy.inRole name [Policy.allow actions "*"]

def instanceRole (id : LogicalId) (policy : String) (actions : List String) :
    Drafting ResourceHandle :=
  Policy.role id "ec2.amazonaws.com" [allowEverywhere policy actions]

def instanceActions : List String := ["EC2:Describe*", "cloudformation:SignalResource"]

def wafLambdaPolicies : List Value :=
  [ allowEverywhere "WAFAccess" ["waf:*"],
    allowEverywhere "S3BucketList" ["s3:ListAllMyBuckets"],
    allowEverywhere "LogsAccess" ["logs:*"],
    allowEverywhere "LambdaAccess" ["lambda:*"],
    allowEverywhere "CloudFormationAccess"
      ["cloudformation:DescribeStacks", "cloudformation:ListStacks"],
    allowEverywhere "CloudWatchAccess" ["cloudwatch:PutMetricData"] ]

structure Roles where
  wafLambda : ResourceHandle
  gateway : ResourceHandle
  cms : ResourceHandle
  vault : ResourceHandle
  consul : ResourceHandle

namespace Roles

-- Vault servers join the Consul cluster, and their policy bears its name.
def declare : Drafting Roles := do
  return {
    wafLambda := ← Policy.role "WAFLambdaRole" "lambda.amazonaws.com" wafLambdaPolicies
    gateway := ← instanceRole "GatewayIamRole" "gatewayPolicy" instanceActions
    cms := ← instanceRole "CmsIamRole" "cmsPolicy" instanceActions
    vault := ← instanceRole "VaultIamRole" "consulPolicy" instanceActions
    consul := ← instanceRole "ConsulIamRole" "consulPolicy"
      ["EC2:Describe*", "cloudformation:DescribeStacks", "cloudformation:SignalResource"] }

def instanceNames (roles : Roles) : List Value :=
  [roles.gateway, roles.cms, roles.vault, roles.consul].map (·.attributeOf "Arn")

end Roles

def instanceProfile (id : LogicalId) (role : ResourceHandle) : Drafting ResourceHandle :=
  declareResource id "AWS::IAM::InstanceProfile"
    [("Path", "/"), ("Roles", .list [role.reference])]

structure Profiles where
  gateway : ResourceHandle
  cms : ResourceHandle
  vault : ResourceHandle
  consul : ResourceHandle

def Profiles.declare (roles : Roles) : Drafting Profiles := do
  return {
    gateway := ← instanceProfile "GatewayInstanceProfile" roles.gateway
    cms := ← instanceProfile "CmsInstanceProfile" roles.cms
    vault := ← instanceProfile "VaultInstanceProfile" roles.vault
    consul := ← instanceProfile "ConsulInstanceProfile" roles.consul }

def registerAccessOutputs (roles : Roles) (profiles : Profiles) : Drafting Unit := do
  declareOutput "gatewayIamRoleArn" (roles.gateway.attributeOf "Arn")
  declareOutput "cmsIamRoleArn" (roles.cms.attributeOf "Arn")
  declareOutput "consulIamRoleArn" (roles.consul.attributeOf "Arn")
  declareOutput "vaultIamRoleArn" (roles.vault.attributeOf "Arn")
  declareOutput "cloudFrontLogProcessorLambdaIamRoleArn" (roles.wafLambda.attributeOf "Arn")
  declareOutput "gatewayInstanceProfileName" profiles.gateway.reference
  declareOutput "cmsInstanceProfileName" profiles.cms.reference
  declareOutput "consulInstanceProfileName" profiles.consul.reference
  declareOutput "vaultInstanceProfileName" profiles.vault.reference

def keyManagementActions : List String :=
  ["kms:CreateAlias", "kms:CreateKey", "kms:DeleteAlias", "kms:DescribeKey", "kms:DisableKey",
    "kms:DisableKeyRotation", "kms:EnableKey", "kms:EnableKeyRotation", "kms:GetKeyPolicy",
    "kms:GetKeyRotationStatus", "kms:ListAliases", "kms:ListKeyPolicies", "kms:ListKeys",
    "kms:PutKeyPolicy", "kms:UpdateAlias", "kms:UpdateKeyDescription"]

def Roles.declareKeyManagement (roles : Roles) : Drafting ResourceHandle :=
  declareResource "CmsKmsPolicy" "AWS::IAM::Policy"
    [("PolicyName", "CmsKmsPolicy"), ("Roles", .list [roles.cms.reference]),
      ("PolicyDocument", Policy.document [Policy.allow keyManagementActions (.list ["*"])])]

end StackTemplate.Vpc
