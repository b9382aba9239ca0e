import StackTemplate.Settings
import StackTemplate.Stack.Cluster

namespace StackTemplate.Consul
open Cluster

def description : String := "Launches the Consul cluster in the Cerberus VPC"

def draft (settings : Settings) : Drafting Unit := do
  let tags ← settings.tagging.registerInto
  let _ ← declareVpcId
  let instances ← InstanceInputs.declare "Consul"
  let toolsIngress ← declareSecurityGroupId "toolsIngressSgId" "Tools Ingress Security Group ID"
  let consulClient ← declareSecurityGroupId "consulClientSgId" "Consul Client Security Group ID"
  let consulServer ← declareSecurityGroupId "consulServerSgId" "Consul Server Security Group ID"
  let keyPair ← declareKeyPairName (some "cpe-cerberus")
  let userData ← declareUserData "Consul User Data"
  let capacity ← Capacity.declare none
  let subnets ← declareSubnetIds settings.addressing.zoneCount
  let launched ← launchConfiguration "ConsulLaunchConfiguration" instances keyPair
    [toolsIngress, consulClient, consulServer] userData
  let group ← scalingGroup "ConsulAutoScalingGroup"
    { launchConfiguration := launched
      desired := capacity.desired.reference
      maximum := capacity.maximum.reference
      minimum := capacity.minimum.reference
      gracePeriod := 60
      healthCheck := "EC2"
      subnets := subnetReferences subnets
      updatePolicy := rollingUpdate 1 2 "PT15M" true } tags
  registerOutputs group launched

end StackTemplate.Consul
