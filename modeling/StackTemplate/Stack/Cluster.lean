import StackTemplate.Tagging

namespace StackTemplate.Cluster
open Document

def declareText (id : LogicalId) (text : String) : Drafting ParameterHandle :=
  declareParameter id (ParameterSpec.string.description text)

-- No cluster uses it. They take it so that all outputs of the network can be passed on as they are.
def declareVpcId : Drafting ParameterHandle :=
  declareParameter "vpcId" ((ParameterSpec.mk "AWS::EC2::VPC::Id" []).description "The ID of the VPC")

def securityGroupKind : String := "AWS::EC2::SecurityGroup::Id"

def declareSecurityGroupId (id : LogicalId) (text : String) : Drafting ParameterHandle :=
  declareParameter id ((ParameterSpec.mk securityGroupKind []).description text)

def declareSubnetIds (zones : Nat) : Drafting (List ParameterHandle) :=
  (List.range' 1 zones).mapM fun zone =>
    declareText ⟨"vpcSubnetIdForAz" ++ toString zone⟩ s!"VPC Subnet ID for Zone {zone}"

def subnetReferences (subnets : List ParameterHandle) : Value := .list (subnets.map (·.reference))

def keyPairSpec (default : Option String) : ParameterSpec :=
  let spec := ParameterSpec.string.description
    "The key pair to be associated with the EC2 instances"
  default.elim spec fun name => spec.default name

def declareKeyPairName (default : Option String) : Drafting ParameterHandle :=
  declareParameter "keyPairName" (keyPairSpec default)

def declareUserData (text : String) : Drafting ParameterHandle := declareText "userData" text

structure InstanceInputs where
  profile : ParameterHandle
  image : ParameterHandle
  size : ParameterHandle

def InstanceInputs.declare (service : String) : Drafting InstanceInputs := do
  return {
    profile := ← declareText "instanceProfileName" s!"The name for the {service} instance profile"
    image := ← declareText "amiId" s!"The AMI ID for the {service} instances"
    size := ← declareText "instanceSize" s!"The instance size for the {service} instances" }

structure Capacity where
  desired : ParameterHandle
  maximum : ParameterHandle
  minimum : ParameterHandle

namespace Capacity

def sizeSpec (text : String) (default : Option Nat) : ParameterSpec :=
  let spec := ParameterSpec.number.description text
  default.elim spec fun size => spec.default (.string (toString size))

def maximumText (defaults : Option (Nat × Nat × Nat)) : String :=
  if defaults.isSome then "Maximum Number of Auto Scaling Instances (must be larger than min)"
  else "Maximum Number of Auto Scaling Instances"

-- The defaults are the desired, the largest and the smallest number.
def declare (defaults : Option (Nat × Nat × Nat)) : Drafting Capacity := do
  return {
    desired := ← declareParameter "desiredInstances"
      (sizeSpec "Desired Number of Auto Scaling Instances" (defaults.map (·.1)))
    maximum := ← declareParameter "maximumInstances"
      (sizeSpec (maximumText defaults) (defaults.map (·.2.1)))
    minimum := ← declareParameter "minimumInstances"
      (sizeSpec "Minimum Number of Auto Scaling Instances" (defaults.map (·.2.2))) }

end Capacity

def rollingUpdate (batch minimumInService pauseTime waitOnSignals : Value) : Value :=
  .map [("AutoScalingRollingUpdate", .map [("MaxBatchSize", batch),
    ("MinInstancesInService", minimumInService), ("PauseTime", pauseTime),
    ("WaitOnResourceSignals", waitOnSignals)])]

structure RollingUpdateInputs where
  pauseTime : ParameterHandle
  waitOnSignals : ParameterHandle

namespace RollingUpdateInputs

def pauseTimeSpec : ParameterSpec :=
  (ParameterSpec.string.description
    "Pause time for AutoScalingRollingUpdate e.g PT15M").default "PT15M"

def waitOnSignalsSpec : ParameterSpec :=
  (ParameterSpec.string.description
    "Enabling WaitOnResourceSignals allows CloudFormation to wait until you have received a success signal before performing the next scaling action.").default
    "True"

def declare : Drafting RollingUpdateInputs := do
  return {
    pauseTime := ← declareParameter "pauseTime" pauseTimeSpec
    waitOnSignals := ← declareParameter "waitOnResourceSignals" waitOnSignalsSpec }

def policy (inputs : RollingUpdateInputs) (minimum : ParameterHandle) : Value :=
  rollingUpdate 1 minimum.reference inputs.pauseTime.reference inputs.waitOnSignals.reference

end RollingUpdateInputs

def launchProperties (instances : InstanceInputs) (keyPair : ParameterHandle)
    (groups : List ParameterHandle) (userData : ParameterHandle) : Entries Value :=
  [("AssociatePublicIpAddress", true), ("IamInstanceProfile", instances.profile.reference),
    ("ImageId", instances.image.reference), ("InstanceMonitoring", true),
    ("InstanceType", instances.size.reference), ("KeyName", keyPair.reference),
    ("SecurityGroups", .list (groups.map (·.reference))), ("UserData", userData.reference)]

def launchConfiguration (id : LogicalId) (instances : InstanceInputs) (keyPair : ParameterHandle)
    (groups : List ParameterHandle) (userData : ParameterHandle) : Drafting ResourceHandle :=
  declareResource id "AWS::AutoScaling::LaunchConfiguration"
    (launchProperties instances keyPair groups userData)

structure ScalingGroup where
  launchConfiguration : ResourceHandle
  loadBalancer : Option ResourceHandle := none
  desired : Value
  maximum : Value
  minimum : Value
  -- Seconds before the first health check of an instance counts.
  gracePeriod : Int
  healthCheck : String
  subnets : Value
  updatePolicy : Value

def ScalingGroup.declaration (group : ScalingGroup) (id : LogicalId) (tags : TagHandles) :
    Declaration :=
  (Declaration.resource id "AWS::AutoScaling::AutoScalingGroup"
    ([("DesiredCapacity", group.desired),
      ("HealthCheckGracePeriod", .number (.int group.gracePeriod)),
      ("HealthCheckType", group.healthCheck),
      ("LaunchConfigurationName", group.launchConfiguration.reference)]
    ++ (group.loadBalancer.map fun elb =>
        ("LoadBalancerNames", Value.list [elb.reference])).toList
    ++ [("MaxSize", group.maximum), ("MinSize", group.minimum),
      ("VPCZoneIdentifier", group.subnets), ("Tags", tags.autoscalingTags)])).withUpdatePolicy
    group.updatePolicy

def scalingGroup (id : LogicalId) (group : ScalingGroup) (tags : TagHandles) :
    Drafting ResourceHandle := addResource (group.declaration id tags)

structure LoadBalancer where
  policyName : String
  scheme : String
  healthCheckTarget : String
  instancePort : Nat
  instanceProtocol : String
  certificate : ParameterHandle
  instanceKey : Option ParameterHandle := none
  group : ParameterHandle
  subnets : Value

namespace LoadBalancer

def listenerPolicy (name kind attributeName : String) (value : Value) : List (String × Value) :=
  [("PolicyName", name), ("PolicyType", kind),
    ("Attributes", .list [.map [("Name", attributeName), ("Value", value)]])]

def instanceKeyPolicies (elb : LoadBalancer) (key : ParameterHandle) : List Value :=
  let keyPolicy := elb.policyName ++ "PublicKeyPolicy"
  [ .map (listenerPolicy keyPolicy "PublicKeyPolicyType" "PublicKey" key.reference),
    .map (listenerPolicy (elb.policyName ++ "BackendServerAuthenticationPolicy")
      "BackendServerAuthenticationPolicyType" "PublicKeyPolicyName" keyPolicy
      ++ [("InstancePorts", .list [.string (toString elb.instancePort)])]) ]

def properties (elb : LoadBalancer) (tags : TagHandles) : Entries Value :=
  let tlsPolicy := elb.policyName ++ "TLSNegotiationPolicy"
  [("ConnectionDrainingPolicy", .map [("Enabled", true), ("Timeout", 10)]),
    ("ConnectionSettings", .map [("IdleTimeout", 10)]),
    ("CrossZone", true),
    ("HealthCheck", .map [("HealthyThreshold", 2), ("Interval", 5),
      ("Target", elb.healthCheckTarget), ("Timeout", 2), ("UnhealthyThreshold", 2)]),
    ("Listeners", .list [.map [("InstancePort", .number (.int elb.instancePort)),
      ("InstanceProtocol", elb.instanceProtocol), ("LoadBalancerPort", 443),
      ("PolicyNames", .list [.string tlsPolicy]), ("Protocol", "HTTPS"),
      ("SSLCertificateId", elb.certificate.reference)]]),
    ("Policies", .list (.map (listenerPolicy tlsPolicy "SSLNegotiationPolicyType"
      "Reference-Security-Policy" "ELBSecurityPolicy-2015-05")
      :: elb.instanceKey.elim [] (instanceKeyPolicies elb))),
    ("Scheme", elb.scheme),
    ("SecurityGroups", .list [elb.group.reference]),
    ("Subnets", elb.subnets),
    ("Tags", tags.tags)]

end LoadBalancer

def loadBalancer (id : LogicalId) (elb : LoadBalancer) (tags : TagHandles) :
    Drafting ResourceHandle :=
  declareResource id "AWS::ElasticLoadBalancing::LoadBalancer" (elb.properties tags)

def recordProperties (hostedZone : ParameterHandle) (name target : Value) : Entries Value :=
  [("HostedZoneId", hostedZone.reference), ("Name", name), ("TTL", 30), ("Type", "CNAME"),
    ("ResourceRecords", .list [target])]

def aliasRecord (id : LogicalId) (hostedZone : ParameterHandle) (name target : Value) :
    Drafting ResourceHandle :=
  declareResource id "AWS::Route53::RecordSet" (recordProperties hostedZone name target)

def registerOutputs (group launchConfiguration : ResourceHandle) : Drafting Unit := do
  declareOutput "autoscalingGroupLogicalId" group.reference
  declareOutput "launchConfigurationLogicalId" launchConfiguration.reference

def registerLoadBalancerOutputs (elb : ResourceHandle) : Drafting Unit := do
  declareOutput "elbLogicalId" elb.reference
  declareOutput "elbCanonicalHostedZoneNameId" (elb.attributeOf "CanonicalHostedZoneNameID")
  declareOutput "elbDnsName" (elb.attributeOf "DNSName")
  declareOutput "elbSourceSecurityGroupName" (elb.attributeOf "SourceSecurityGroup.GroupName")
  declareOutput "elbSourceSecurityGroupOwnerAlias"
    (elb.attributeOf "SourceSecurityGroup.OwnerAlias")

end StackTemplate.Cluster
