import StackTemplate.Settings
import StackTemplate.Stack.Cluster

namespace StackTemplate.Cms
open Cluster

def description : String := "Launches the CMS cluster in the Cerberus VPC"

-- The public key is taken as in the other clusters, but its listener does not ask for it.
def draft (settings : Settings) : Drafting Unit := do
  let tags ← settings.tagging.registerInto
  let _ ← declareText "certPublicKey"
    "TLS certificate public key to be used for backend authentication"
  let certificate ← declareText "sslCertificateArn" "TLS certificate ARN for the CMS ELB"
  let _ ← declareVpcId
  let instances ← InstanceInputs.declare "CMS"
  let cmsElb ← declareSecurityGroupId "cmsElbSgId" "CMS ELB Security Group ID"
  let cms ← declareSecurityGroupId "cmsSgId" "CMS Security Group ID"
  let toolsIngress ← declareSecurityGroupId "toolsIngressSgId" "Tools Ingress Security Group ID"
  let subnets ← declareSubnetIds settings.addressing.zoneCount
  let keyPair ← declareKeyPairName (some "cpe-cerberus")
  let userData ← declareUserData "CMS user data"
  let hostedZone ← declareText "hostedZoneId"
    "The hosted zone id to associate the CNAME record with"
  let name ← declareText "cname" "The CNAME to be created for the CMS ELB"
  let capacity ← Capacity.declare (some (3, 4, 3))
  let update ← RollingUpdateInputs.declare
  let elb ← loadBalancer "CmsElasticLoadBalancer"
    { policyName := "Cms"
      scheme := "internal"
      healthCheckTarget := "HTTP:8080/healthcheck"
      instancePort := 8080
      instanceProtocol := "HTTP"
      certificate
      group := cmsElb
      subnets := subnetReferences subnets } tags
  let launched ← launchConfiguration "CmsLaunchConfiguration" instances keyPair
    [toolsIngress, cms] userData
  let group ← scalingGroup "CmsAutoScalingGroup"
    { launchConfiguration := launched
      loadBalancer := some elb
      desired := capacity.desired.reference
      maximum := capacity.maximum.reference
      minimum := capacity.minimum.reference
      gracePeriod := 900
      healthCheck := "ELB"
      subnets := subnetReferences subnets
      updatePolicy := update.policy capacity.minimum } tags
  let _ ← aliasRecord "CmsRecordSet" hostedZone name.reference (elb.attributeOf "DNSName")
  registerOutputs group launched
  registerLoadBalancerOutputs elb

end StackTemplate.Cms
