import StackTemplate.Settings
import StackTemplate.Stack.Cluster

namespace StackTemplate.RdsBackup
open Cluster

def description : String := "Launches the RDS backup stack in the Cerberus VPC"

-- There is never more than one instance, so while it is replaced there may be none.
def draft (settings : Settings) : Drafting Unit := do
  let tags ← settings.tagging.registerInto
  let _ ← declareVpcId
  let instances ← InstanceInputs.declare "RDS backup"
  let toolsIngress ← declareSecurityGroupId "toolsIngressSgId" "Tools Ingress Security Group ID"
  let cms ← declareSecurityGroupId "cmsSgId" "CMS Security Group ID for servers"
  let subnets ← declareSubnetIds settings.addressing.zoneCount
  let keyPair ← declareKeyPairName none
  let userData ← declareUserData "RDS backup cluster user data"
  let launched ← launchConfiguration "RdsBackupLaunchConfiguration" instances keyPair
    [toolsIngress, cms] userData
  let group ← scalingGroup "RdsBackupAutoScalingGroup"
    { launchConfiguration := launched
      desired := 1
      maximum := 1
      minimum := 1
      gracePeriod := 60
      healthCheck := "EC2"
      subnets := subnetReferences subnets
      updatePolicy := rollingUpdate 1 0 "PT5M" false } tags
  registerOutputs group launched

end StackTemplate.RdsBackup
