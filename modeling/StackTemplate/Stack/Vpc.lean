import StackTemplate.Settings
import StackTemplate.Stack.Vpc.Database
import StackTemplate.Stack.Vpc.Network
import StackTemplate.Stack.Vpc.Storage

namespace StackTemplate.Vpc
open Document

def description : String := "Creates the Cerberus VPC and foundational resources"

def draft (settings : Settings) : Drafting Unit := do
  let tags ← settings.tagging.registerInto
  let addressing ← settings.addressing.registerInto
  let admin ← declareParameter "accountAdminArn" (ParameterSpec.string.description
    "The ARN for a IAM user, group or role that can create this stack.")
  let zones ← declareZones addressing
  let database ← DatabaseInputs.declare
  let zoneName ← declareParameter "vpcHostedZoneName" (ParameterSpec.string.description
    "The hosted zone name used in the Cerberus VPC")
  let network ← Network.declare addressing tags
  let subnets ← network.declareSubnets addressing zones tags
  let groups ← SecurityGroups.declare network.vpc tags
  groups.declareIngress addressing database.port
  let roles ← Roles.declare
  let profiles ← Profiles.declare roles
  let storage ← Storage.declare roles admin tags
  let keyManagement ← roles.declareKeyManagement
  let subnetGroup ← declareSubnetGroup subnets
  let instances ← database.declareInstance subnetGroup groups tags
  let hostedZone ← network.declareHostedZone zoneName tags
  declareOutput "vpcId" network.vpc.reference
  registerAccessOutputs roles profiles
  groups.registerOutputs
  storage.registerOutputs
  database.registerOutputs instances
  let _ ← register ((Declaration.output "vpcHostedZoneId" hostedZone.reference).describe
    "The VPC hosted zone ID")
  registerSubnetOutputs addressing subnets
  let _ ← register ((Declaration.output "cmsKmsPolicyId" keyManagement.reference).describe
    "The policy id for CMS managing KMS keys")
  addressing.registerOutputs

end StackTemplate.Vpc
