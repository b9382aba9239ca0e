import StackTemplate.Settings
import StackTemplate.Stack.Cluster

namespace StackTemplate.Vault
open Cluster

def description : String := "Launches the Vault stack in the Cerberus VPC"

def port : Nat := 8200

def draft (settings : Settings) : Drafting Unit := do
  let tags ← settings.tagging.registerInto
  let publicKey ← declareText "certPublicKey"
    "TLS certificate public key to be used for backend authentication"
  let certificate ← declareText "sslCertificateArn" "TLS certificate ARN for the ELB"
  let _ ← declareVpcId
  let instances ← InstanceInputs.declare "Vault"
  let vaultServerElb ← declareSecurityGroupId "vaultServerElbSgId"
    "Vault Server ELB Security Group ID"
  let toolsIngress ← declareSecurityGroupId "toolsIngressSgId" "Tools Ingress Security Group ID"
  let vaultClient ← declareSecurityGroupId "vaultClientSgId" "Vault Security Group ID for clients"
  let vaultServer ← declareSecurityGroupId "vaultServerSgId" "Vault Security Group ID for servers"
  let consulClient ← declareSecurityGroupId "consulClientSgId" "Consul Client Security Group ID"
  let consulServer ← declareSecurityGroupId "consulServerSgId" "Consul Server Security Group ID"
  let subnets ← declareSubnetIds settings.addressing.zoneCount
  let keyPair ← declareKeyPairName (some "cpe-cerberus")
  let userData ← declareUserData "Vault User Data"
  let hostedZone ← declareText "hostedZoneId"
    "The hosted zone id to associate the CNAME record with"
  let name ← declareText "cname" "The CNAME to be created"
  let capacity ← Capacity.declare (some (3, 4, 3))
  let update ← RollingUpdateInputs.declare
  let elb ← loadBalancer "VaultElasticLoadBalancer"
    { policyName := "Vault"
      scheme := "internal"
      healthCheckTarget := "HTTPS:8200/v1/sys/health"
      instancePort := port
      instanceProtocol := "HTTPS"
      certificate
      instanceKey := some publicKey
      group := vaultServerElb
      subnets := subnetReferences subnets } tags
  let launched ← launchConfiguration "VaultLaunchConfiguration" instances keyPair
    [toolsIngress, vaultClient, vaultServer, consulClient, consulServer] userData
  let group ← scalingGroup "VaultAutoScalingGroup"
    { launchConfiguration := launched
      loadBalancer := some elb
      desired := capacity.desired.reference
      maximum := capacity.maximum.reference
      minimum := capacity.minimum.reference
      gracePeriod := 60
      healthCheck := "EC2"
      subnets := subnetReferences subnets
      updatePolicy := update.policy capacity.minimum } tags
  let _ ← aliasRecord "VaultRecordSet" hostedZone name.reference (elb.attributeOf "DNSName")
  registerOutputs group launched
  registerLoadBalancerOutputs elb

end StackTemplate.Vault
