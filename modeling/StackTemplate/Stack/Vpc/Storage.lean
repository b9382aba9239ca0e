import StackTemplate.Stack.Vpc.Access
import StackTemplate.Tagging

namespace StackTemplate.Vpc
open Document

def configPaths (bucket : ResourceHandle) (paths : List String) : Value :=
  .list (paths.map (Policy.bucketName bucket.reference))

def ownPaths (bucket : ResourceHandle) (sid : String) (role : ResourceHandle)
    (paths : List String) : Value :=
  Policy.grant sid (Policy.accounts [role.attributeOf "Arn"]) ["s3:*"] (configPaths bucket paths)

-- Everybody may see what there is; beyond that a service has its own paths.
def configPolicy (bucket : ResourceHandle) (roles : Roles) : Value := Policy.document
  [ Policy.grant "Allow-ListBucket-Access"
      (Policy.accounts (roles.instanceNames ++ [roles.wafLambda.attributeOf "Arn"]))
      ["s3:ListBucket"] (configPaths bucket ["", "/*"]),
    ownPaths bucket "Allow-Bucket-Access-For-Gateway" roles.gateway
      ["/data/gateway/*", "/data/gateway"],
    ownPaths bucket "Allow-Bucket-Access-For-CMS" roles.cms ["/data/cms/*", "/data/cms"],
    ownPaths bucket "Allow-Bucket-Access-For-Log-Processing-Lambda" roles.wafLambda
      ["/data/cloud-front-log-processor/*", "/data/cloud-front-log-processor"],
    ownPaths bucket "Allow-Bucket-Access-For-Vault" roles.vault
      ["/data/vault/*", "/data/vault", "/data/consul/*", "/data/consul", "/config/secrets.json"],
    ownPaths bucket "Allow-Bucket-Access-For-Consul" roles.consul
      ["/data/consul/*", "/data/consul", "/consul/*", "/consul"] ]

def keyPolicy (roles : Roles) (admin : ParameterHandle) : Value := Policy.document
  [ Policy.grant "Allow-Root-User"
      (Policy.accounts [.join "" ["arn:aws:iam::", .pseudo .accountId, ":root"]]) ["kms:*"] "*",
    Policy.grant "Allow-Decrypt-From-Instances" (Policy.accounts roles.instanceNames)
      ["kms:Decrypt"] "*",
    Policy.grant "Allow-Account-Admin" (Policy.accounts [admin.reference]) ["kms:*"] "*" ]

structure Storage where
  dashboard : ResourceHandle
  config : ResourceHandle
  key : ResourceHandle

namespace Storage

def declare (roles : Roles) (admin : ParameterHandle) (tags : TagHandles) : Drafting Storage := do
  let dashboard ← declareResource "DashboardBucket" "AWS::S3::Bucket"
    [("AccessControl", "PublicRead"),
      ("WebsiteConfiguration", .map [("IndexDocument", "index.html"),
        ("ErrorDocument", "error.html")]),
      ("Tags", tags.tags)]
  let _ ← declareResource "DashboardBucketAccessPolicy" "AWS::S3::BucketPolicy"
    [("Bucket", dashboard.reference),
      ("PolicyDocument", Policy.document [Policy.grant "Allow-Bucket-Access" "*"
        ["s3:GetObject"] (.list [Policy.bucketName dashboard.reference "/*"])])]
  let config ← declareResource "CerberusConfigBucket" "AWS::S3::Bucket"
    [("AccessControl", "Private"),
      ("VersioningConfiguration", .map [("Status", "Enabled")]), ("Tags", tags.tags)]
  let _ ← declareResource "CerberusConfigBucketAccessPolicy" "AWS::S3::BucketPolicy"
    [("Bucket", config.reference), ("PolicyDocument", configPolicy config roles)]
  let key ← declareResource "ConfigFileKey" "AWS::KMS::Key"
    [("Description", "Cerberus encryption key for storing config files in an encrypted state."),
      ("Enabled", true), ("KeyPolicy", keyPolicy roles admin)]
  return { dashboard, config, key }

def registerOutputs (storage : Storage) : Drafting Unit := do
  declareOutput "configFileKeyId" storage.key.reference
  declareOutput "dashboardBucketName" storage.dashboard.reference
  declareOutput "dashboardBucketWebsiteUrl" (storage.dashboard.attributeOf "WebsiteURL")
  declareOutput "configBucketName" storage.config.reference
  declareOutput "configBucketDomainName" (storage.config.attributeOf "DomainName")

end Storage

end StackTemplate.Vpc
