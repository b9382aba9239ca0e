import StackTemplate.Settings
import StackTemplate.Stack.Cluster
import StackTemplate.Stack.Gateway.WebAcl
import StackTemplate.Stack.Policy

namespace StackTemplate.Gateway
open Document Cluster

def description : String := "Launches the gateway cluster in the Cerberus VPC"

def originId : String := "CerberusGatewayOrigin"

def cacheBehavior : Value :=
  .map [("AllowedMethods", Policy.texts
      ["GET", "PUT", "POST", "DELETE", "PATCH", "HEAD", "OPTIONS"]),
    ("CachedMethods", Policy.texts ["GET", "HEAD", "OPTIONS"]),
    ("ForwardedValues", .map [("Headers", Policy.texts ["*"]), ("QueryString", true)]),
    ("MaxTTL", 0), ("MinTTL", 0), ("DefaultTTL", 0), ("TargetOriginId", originId),
    ("ViewerProtocolPolicy", "https-only")]

def origin (hostname : ParameterHandle) : Value :=
  .map [("Id", originId), ("DomainName", .join "." ["origin", hostname.reference]),
    ("CustomOriginConfig", .map [("HTTPSPort", "443"), ("OriginProtocolPolicy", "https-only"),
      ("OriginSSLProtocols", Policy.texts ["TLSv1.2"])])]

def logNotification (function : ResourceHandle) : Value :=
  .map [("LambdaConfigurations", .list [.map
    [("Event", "s3:ObjectCreated:*"),
      ("Filter", .map [("S3Key", .map [("Rules", .list [.map [("Name", "suffix"),
        ("Value", "gz")]])])]),
      ("Function", function.attributeOf "Arn")]])]

def declareLogProcessor (role bucket key : ParameterHandle) : Drafting ResourceHandle := do
  let function ← declareResource "LambdaWAFBlacklistingFunction" "AWS::Lambda::Function"
    [("Description", "Function for auto black listing ips that are misbehaving"),
      ("Handler",
        "com.nike.cerberus.lambda.waf.handler.CloudFrontLogEventHandler::handleNewS3Event"),
      ("Role", role.reference),
      ("Code", .map [("S3Bucket", bucket.reference), ("S3Key", key.reference)]),
      ("Runtime", "java8"), ("MemorySize", "512"), ("Timeout", "60")]
  let _ ← addResource ((Declaration.resource "LambdaInvokePermission" "AWS::Lambda::Permission"
    [("FunctionName", function.attributeOf "Arn"), ("Action", "lambda:*"),
      ("Principal", "s3.amazonaws.com"), ("SourceAccount", .pseudo .accountId)]).after function.id)
  return function

def declareLogBucket (function : ResourceHandle) (role : ParameterHandle) (tags : TagHandles) :
    Drafting ResourceHandle := do
  let logs ← declareResource "CloudFrontBucket" "AWS::S3::Bucket"
    [("AccessControl", "BucketOwnerFullControl"), ("Tags", tags.tags),
      ("NotificationConfiguration", logNotification function)]
  let _ ← declareResource "CloudFrontLogsBucketPolicy" "AWS::S3::BucketPolicy"
    [("Bucket", logs.reference),
      ("PolicyDocument", Policy.document [Policy.grant "Allow-CloudFront-Log-Access"
        (Policy.accounts [role.reference]) ["s3:*"]
        (.list [Policy.bucketName logs.reference "/*"])])]
  return logs

def declareDistribution (hostname certificateName : ParameterHandle) (acl logs : ResourceHandle) :
    Drafting ResourceHandle :=
  declareResource "CerberusDistribution" "AWS::CloudFront::Distribution"
    [("DistributionConfig", .map [("Aliases", .list [hostname.reference]),
      ("DefaultCacheBehavior", cacheBehavior), ("Enabled", true),
      ("Origins", .list [origin hostname]), ("PriceClass", "PriceClass_100"),
      ("ViewerCertificate", .map [("IamCertificateId", certificateName.reference),
        ("MinimumProtocolVersion", "TLSv1"), ("SslSupportMethod", "sni-only")]),
      ("WebACLId", acl.reference),
      ("Logging", .map [("Bucket", logs.attributeOf "DomainName")])])]

def registerEdgeOutputs (distribution logs : ResourceHandle) (access : WebAcl) :
    Drafting Unit := do
  declareOutput "cloudFrontDistributionId" distribution.reference
  declareOutput "cloudFrontDistributionDomainName" (distribution.attributeOf "DomainName")
  declareOutput "cloudFrontAccessLogBucket" logs.reference
  declareOutput "whiteListIPSetID" access.whiteList.reference
  declareOutput "manualBlockIPSetID" access.manualBlock.reference
  declareOutput "autoBlockIPSetID" access.autoBlock.reference

def draft (settings : Settings) : Drafting Unit := do
  let tags ← settings.tagging.registerInto
  let publicKey ← declareText "certPublicKey"
    "TLS certificate public key to be used for backend authentication"
  let certificate ← declareText "sslCertificateArn" "TLS certificate ARN for the ELB"
  let certificateName ← declareText "sslCertificateId"
    "TLS certificate ID for the CloudFront distribution and ELB"
  let _ ← declareVpcId
  let instances ← InstanceInputs.declare "gateway"
  let gatewayElb ← declareSecurityGroupId "gatewayElbSgId" "Gateway Server ELB Security Group ID"
  let gatewayServer ← declareSecurityGroupId "gatewayServerSgId" "Gateway Server Security Group ID"
  let toolsIngress ← declareSecurityGroupId "toolsIngressSgId" "Tools Ingress Security Group ID"
  let logRole ← declareText "cloudFrontLogProcessorLambdaIamRoleArn"
    "The IAM Role Arn for the lambda"
  let subnets ← declareSubnetIds settings.addressing.zoneCount
  let keyPair ← declareKeyPairName (some "cpe-cerberus")
  let userData ← declareUserData "Gateway User Data"
  let hostedZone ← declareText "hostedZoneId"
    "The hosted zone id to associate the CNAME record with"
  let hostname ← declareText "hostname"
    "The base hostname for the public facing gateway / router"
  let functionBucket ← declareText "wafLambdaBucket"
    "S3 Bucket for waf lambda function artifact"
  let functionKey ← declareText "wafLambdaKey" "Key for waf lambda function artifact"
  let capacity ← Capacity.declare none
  let elb ← loadBalancer "GatewayElasticLoadBalancer"
    { policyName := "Gateway"
      scheme := "internet-facing"
      healthCheckTarget := "HTTPS:443/sys/health"
      instancePort := 443
      instanceProtocol := "HTTPS"
      certificate
      instanceKey := some publicKey
      group := gatewayElb
      subnets := subnetReferences subnets } tags
  let launched ← launchConfiguration "GatewayLaunchConfiguration" instances keyPair
    [toolsIngress, gatewayServer] userData
  let group ← scalingGroup "GatewayAutoScalingGroup"
    { launchConfiguration := launched
      loadBalancer := some elb
      desired := capacity.desired.reference
      maximum := capacity.maximum.reference
      minimum := capacity.minimum.reference
      gracePeriod := 300
      healthCheck := "ELB"
      subnets := subnetReferences subnets
      updatePolicy := rollingUpdate 1 2 "PT15M" true } tags
  let _ ← aliasRecord "OriginCerberusPublicRecordSet" hostedZone
    (.join "." ["origin", hostname.reference, ""]) (elb.attributeOf "CanonicalHostedZoneName")
  let access ← WebAcl.declare hostname
  let function ← declareLogProcessor logRole functionBucket functionKey
  let logs ← declareLogBucket function logRole tags
  let distribution ← declareDistribution hostname certificateName access.acl logs
  let _ ← aliasRecord "CerberusPublicRecordSet" hostedZone
    (.join "." [hostname.reference, ""]) (distribution.attributeOf "DomainName")
  registerOutputs group launched
  registerLoadBalancerOutputs elb
  registerEdgeOutputs distribution logs access

end StackTemplate.Gateway
