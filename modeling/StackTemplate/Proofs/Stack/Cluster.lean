import StackTemplate.Proofs.Completeness
import StackTemplate.Proofs.Stack.Registration

namespace StackTemplate

namespace Tagging

-- Only the default classification depends on the settings.
theorem parameters_grown (tagging : Tagging) (extra : List Edge) :
    Grown extra [] [] (parameters {}) tagging.parameters := by
  have literal (text value : String) :
      ((ParameterSpec.string.description text).default value).Literal :=
    (ParameterSpec.description_literal text).set _ ⟨rfl, rfl⟩
  exact .widened (.cons (.refl _) (.cons (.refl _)
    (.cons (.parameter _ (literal _ _) (literal _ _)) (.cons (.refl _) .nil))))

end Tagging

def Settings.unzoned : Settings := { addressing := { subnetBlocks := [] } }

namespace Cluster

def textParameter (id : LogicalId) (text : String) : Declaration :=
  .parameter id (ParameterSpec.string.description text)

def vpcParameter : Declaration :=
  .parameter "vpcId" ((ParameterSpec.mk "AWS::EC2::VPC::Id" []).description "The ID of the VPC")

def groupParameter (id : LogicalId) (text : String) : Declaration :=
  .parameter id ((ParameterSpec.mk "AWS::EC2::SecurityGroup::Id" []).description text)

def keyPairParameter (default : Option String) : Declaration :=
  .parameter "keyPairName" (keyPairSpec default)

def subnet (zone : Nat) : ParameterHandle := ⟨Zone.Family.subnetOutput.name zone⟩

def subnetParameter (zone : Nat) : Declaration :=
  textParameter (Zone.Family.subnetOutput.name zone) s!"VPC Subnet ID for Zone {zone}"

def subnetParameters (zones : List Nat) : List Declaration := zones.map subnetParameter

def instanceParameters (service : String) : List Declaration :=
  [ textParameter "instanceProfileName" s!"The name for the {service} instance profile",
    textParameter "amiId" s!"The AMI ID for the {service} instances",
    textParameter "instanceSize" s!"The instance size for the {service} instances" ]

def instances : InstanceInputs := ⟨⟨"instanceProfileName"⟩, ⟨"amiId"⟩, ⟨"instanceSize"⟩⟩

def capacityParameters (defaults : Option (Nat × Nat × Nat)) : List Declaration :=
  [ .parameter "desiredInstances" (Capacity.sizeSpec "Desired Number of Auto Scaling Instances"
      (defaults.map (·.1))),
    .parameter "maximumInstances" (Capacity.sizeSpec (Capacity.maximumText defaults)
      (defaults.map (·.2.1))),
    .parameter "minimumInstances" (Capacity.sizeSpec "Minimum Number of Auto Scaling Instances"
      (defaults.map (·.2.2))) ]

def capacity : Capacity := ⟨⟨"desiredInstances"⟩, ⟨"maximumInstances"⟩, ⟨"minimumInstances"⟩⟩

def updateParameters : List Declaration :=
  [ .parameter "pauseTime" RollingUpdateInputs.pauseTimeSpec,
    .parameter "waitOnResourceSignals" RollingUpdateInputs.waitOnSignalsSpec ]

def update : RollingUpdateInputs := ⟨⟨"pauseTime"⟩, ⟨"waitOnResourceSignals"⟩⟩

def launched (id : LogicalId) (groups : List ParameterHandle) : Declaration :=
  .resource id "AWS::AutoScaling::LaunchConfiguration"
    (launchProperties instances ⟨"keyPairName"⟩ groups ⟨"userData"⟩)

def grouped (id : LogicalId) (group : ScalingGroup) : Declaration :=
  group.declaration id Tagging.handles

def balanced (id : LogicalId) (elb : LoadBalancer) : Declaration :=
  .resource id "AWS::ElasticLoadBalancing::LoadBalancer" (elb.properties Tagging.handles)

def aliased (id : LogicalId) (name target : Value) : Declaration :=
  .resource id "AWS::Route53::RecordSet" (recordProperties ⟨"hostedZoneId"⟩ name target)

def groupOutputs (group launchConfiguration : ResourceHandle) : List Declaration :=
  [ .output "autoscalingGroupLogicalId" group.reference,
    .output "launchConfigurationLogicalId" launchConfiguration.reference ]

def balancerOutputs (elb : ResourceHandle) : List Declaration :=
  [ .output "elbLogicalId" elb.reference,
    .output "elbCanonicalHostedZoneNameId" (elb.attributeOf "CanonicalHostedZoneNameID"),
    .output "elbDnsName" (elb.attributeOf "DNSName"),
    .output "elbSourceSecurityGroupName" (elb.attributeOf "SourceSecurityGroup.GroupName"),
    .output "elbSourceSecurityGroupOwnerAlias"
      (elb.attributeOf "SourceSecurityGroup.OwnerAlias") ]

theorem text_registers (id : LogicalId) (text : String) :
    Registers (declareText id text) [textParameter id text] ⟨id⟩ := .parameter _ _

theorem vpc_registers : Registers declareVpcId [vpcParameter] ⟨"vpcId"⟩ := .parameter _ _

theorem group_registers (id : LogicalId) (text : String) :
    Registers (declareSecurityGroupId id text) [groupParameter id text] ⟨id⟩ := .parameter _ _

theorem keyPair_registers (default : Option String) :
    Registers (declareKeyPairName default) [keyPairParameter default] ⟨"keyPairName"⟩ :=
  .parameter _ _

theorem userData_registers (text : String) :
    Registers (declareUserData text) [textParameter "userData" text] ⟨"userData"⟩ := .parameter _ _

theorem subnets_registers (addressing : Addressing) :
    Registers (declareSubnetIds addressing.zoneCount) (subnetParameters addressing.zones)
      (addressing.zones.map subnet) :=
  .of_eq (.mapM (fun _ => .parameter _ _) _) List.map_eq_flatMap

theorem instances_registers (service : String) :
    Registers (InstanceInputs.declare service) (instanceParameters service) instances :=
  .of_eq (.bind (.parameter _ _) (.bind (.parameter _ _) (.bind (.parameter _ _) (.done _)))) rfl

theorem capacity_registers (defaults : Option (Nat × Nat × Nat)) :
    Registers (Capacity.declare defaults) (capacityParameters defaults) capacity :=
  .of_eq (.bind (.parameter _ _) (.bind (.parameter _ _) (.bind (.parameter _ _) (.done _)))) rfl

theorem update_registers :
    Registers RollingUpdateInputs.declare updateParameters update :=
  .of_eq (.bind (.parameter _ _) (.bind (.parameter _ _) (.done _))) rfl

theorem launched_registers (id : LogicalId) (groups : List ParameterHandle) :
    Registers (launchConfiguration id instances ⟨"keyPairName"⟩ groups ⟨"userData"⟩)
      [launched id groups] ⟨id⟩ := .resource _ _ _

theorem grouped_registers (id : LogicalId) (group : ScalingGroup) :
    Registers (scalingGroup id group Tagging.handles) [grouped id group] ⟨id⟩ := .builtResource rfl

theorem balanced_registers (id : LogicalId) (elb : LoadBalancer) :
    Registers (loadBalancer id elb Tagging.handles) [balanced id elb] ⟨id⟩ := .resource _ _ _

theorem aliased_registers (id : LogicalId) (name target : Value) :
    Registers (aliasRecord id ⟨"hostedZoneId"⟩ name target) [aliased id name target] ⟨id⟩ :=
  .resource _ _ _

theorem outputs_registers (group launchConfiguration : ResourceHandle) :
    Registers (registerOutputs group launchConfiguration)
      (groupOutputs group launchConfiguration) () :=
  .of_eq (.bind (.output _ _) (.output _ _)) rfl

theorem balancerOutputs_registers (elb : ResourceHandle) :
    Registers (registerLoadBalancerOutputs elb) (balancerOutputs elb) () :=
  .of_eq (.bind (.output _ _) (.bind (.output _ _) (.bind (.output _ _)
    (.bind (.output _ _) (.output _ _))))) rfl

-- A cluster around the parameters of its zones: the parameters before and after them, the resources
-- that spread over the subnets, and all that comes last.
structure Layout where
  early : List Declaration
  late : List Declaration
  spreading : (subnets : Value) → List Declaration
  last : List Declaration

def Layout.declarations (layout : Layout) (settings : Settings) : List Declaration :=
  settings.tagging.parameters ++ layout.early ++ subnetParameters settings.addressing.zones
    ++ layout.late ++ layout.spreading (subnetReferences (settings.addressing.zones.map subnet))
    ++ layout.last

-- What every zone is to a cluster: a parameter and references to it.
def subnetOffers (zones : List Nat) : List Use :=
  zones.map fun zone => ⟨Zone.Family.subnetOutput.name zone, .parameter⟩

def subnetEdges (zones : List Nat) : List Edge :=
  zones.map fun zone => ⟨.ref, Zone.Family.subnetOutput.name zone⟩

theorem subnetReferences_eq (zones : List Nat) : subnetReferences (zones.map subnet) =
    .list (zones.map fun zone => .ref (Zone.Family.subnetOutput.name zone)) := by
  rw [subnetReferences, List.map_map]
  rfl

-- The zones come in: each brings its parameter, and values name it that named no zone before.
def Spanned (zones : List Nat) (bare wide : List Declaration) : Prop :=
  Grown (subnetEdges zones) [] (subnetParameters zones) bare wide

-- Declaration by declaration the same, but for references to the subnets of the zones.
def Widened (zones : List Nat) (bare wide : List Declaration) : Prop :=
  List.Forall₂ (Declaration.Widens (subnetOffers zones) (subnetEdges zones)) bare wide

theorem subnetEdge_backed {zones : List Nat} {zone : Nat} (member : zone ∈ zones) :
    ⟨.ref, Zone.Family.subnetOutput.name zone⟩ ∈ subnetEdges zones ∧
      Edge.Backed (subnetOffers zones) ⟨.ref, Zone.Family.subnetOutput.name zone⟩ :=
  ⟨List.mem_map_of_mem member, .parameter, by simp [ReferenceKind.allowed],
    List.mem_map_of_mem member⟩

section
variable (zones : List Nat) (id : LogicalId)

theorem grouped_widens (group : ScalingGroup) (unzoned : group.subnets = subnetReferences []) :
    (grouped id group).Widens (subnetOffers zones) (subnetEdges zones)
      (grouped id { group with subnets := subnetReferences (zones.map subnet) }) := by
  rw [subnetReferences_eq]
  obtain ⟨_, elb, _, _, _, _, _, _, _⟩ := group
  subst unzoned
  -- The references to subnets stand one entry later behind a load balancer.
  cases elb with
  | none =>
    exact .references rfl ((grouped id _).attributes.take 6) _ _ rfl rfl fun _ => subnetEdge_backed
  | some elb =>
    exact .references rfl ((grouped id _).attributes.take 7) _ _ rfl rfl fun _ => subnetEdge_backed

theorem balanced_widens (elb : LoadBalancer) (unzoned : elb.subnets = subnetReferences []) :
    (balanced id elb).Widens (subnetOffers zones) (subnetEdges zones)
      (balanced id { elb with subnets := subnetReferences (zones.map subnet) }) := by
  rw [subnetReferences_eq]
  obtain ⟨_, _, _, _, _, _, _, _, _⟩ := elb
  subst unzoned
  exact .references rfl ((balanced id _).attributes.take 8) _ _ rfl rfl fun _ => subnetEdge_backed

theorem grouped_uses (group : ScalingGroup)
    (all : group.subnets = subnetReferences (zones.map subnet)) :
    subnetEdges zones ⊆ (grouped id group).valueEdges := by
  intro edge member
  have subnets : edge ∈ group.subnets.edges := by
    rw [all, subnetReferences_eq, Value.edges, Value.references_edges]
    exact member
  simp [Declaration.valueEdges, grouped, ScalingGroup.declaration, Declaration.withUpdatePolicy,
    Declaration.resource, Value.entryEdges_eq, subnets]

end

-- The resources of a layout differ in the subnets alone, and a scaling group spans all of them.
structure Layout.Spreads (layout : Layout) : Prop where
  widened : ∀ zones, Widened zones (layout.spreading (subnetReferences []))
    (layout.spreading (subnetReferences (zones.map subnet)))
  spanned : ∀ subnets, ∃ id group, grouped id group ∈ layout.spreading subnets ∧
    group.subnets = subnets

namespace Layout.Spreads

section
variable {layout : Layout} {launch record : Declaration} {id balancerId : LogicalId}
  {group : Value → ScalingGroup} {elb : Value → LoadBalancer}

theorem of_group
    (form : ∀ subnets, layout.spreading subnets = [launch, grouped id (group subnets)])
    (span : ∀ subnets, group subnets = { group (subnetReferences []) with subnets }) :
    layout.Spreads where
  widened zones := by
    rw [form, form, span (subnetReferences (zones.map subnet))]
    exact .cons (.refl _) (.cons (grouped_widens zones id _ (by rw [span])) .nil)
  spanned subnets := ⟨id, group subnets, by simp [form], by rw [span]⟩

theorem of_balanced
    (form : ∀ subnets, layout.spreading subnets =
      [balanced balancerId (elb subnets), launch, grouped id (group subnets), record])
    (spread : ∀ subnets, elb subnets = { elb (subnetReferences []) with subnets })
    (span : ∀ subnets, group subnets = { group (subnetReferences []) with subnets }) :
    layout.Spreads where
  widened zones := by
    rw [form, form, spread (subnetReferences (zones.map subnet)),
      span (subnetReferences (zones.map subnet))]
    exact .cons (balanced_widens zones balancerId _ (by rw [spread])) (.cons (.refl _)
      (.cons (grouped_widens zones id _ (by rw [span])) (.cons (.refl _) .nil)))
  spanned subnets := ⟨id, group subnets, by simp [form], by rw [span]⟩

end

variable {layout : Layout} (spreads : layout.Spreads) (settings : Settings)
include spreads

-- The parameters of the zones come after those that all zones share, and the resources that name
-- them after these.
theorem grown : Spanned settings.addressing.zones (layout.declarations .unzoned)
    (layout.declarations settings) := by
  have shared : Grown (subnetEdges settings.addressing.zones) [] []
      (Tagging.parameters {} ++ layout.early) (settings.tagging.parameters ++ layout.early) :=
    (settings.tagging.parameters_grown _).followed _
  have plain : ∀ d ∈ subnetParameters settings.addressing.zones,
      ∃ id spec, d = .parameter id spec ∧ spec.Literal :=
    List.forall_mem_map.mpr fun zone _ => ⟨_, _, rfl, ParameterSpec.description_literal _⟩
  have zoned := (shared.literals plain).followed layout.late
  have offered : subnetOffers settings.addressing.zones ⊆
      (settings.tagging.parameters ++ layout.early ++ subnetParameters settings.addressing.zones
        ++ layout.late).map (·.offer) ++ [] := by
    intro use member
    obtain ⟨zone, inside, rfl⟩ := List.mem_map.mp member
    have declared := zoned.added_mem (List.mem_append_right [] (List.mem_map_of_mem inside))
    exact List.mem_append_left _ (List.mem_map_of_mem declared)
  have spread := (spreads.widened settings.addressing.zones).imp
    fun _ _ widens => widens.mono offered
  exact (zoned.widening spread).followed layout.last

-- No parameter of a zone is left over.
theorem complete {spare : List LogicalId} (checked : Checked spare (layout.declarations .unzoned)) :
    Complete spare (layout.declarations settings) := by
  have grown := spreads.grown settings
  refine grown.complete checked ?_ ?_ ?_ ?_ ?_
  · intro d member
    obtain ⟨zone, _, rfl⟩ := List.mem_map.mp member
    exact ⟨.subnetOutput, zone, rfl⟩
  · rw [subnetParameters, List.map_map]
    exact Zone.Family.subnetOutput.names_distinct settings.addressing.zones_distinct
  · intro d member _
    obtain ⟨zone, inside, rfl⟩ := List.mem_map.mp member
    obtain ⟨id, group, declared, all⟩ :=
      spreads.spanned (subnetReferences (settings.addressing.zones.map subnet))
    have edge := grouped_uses _ id group all (List.mem_map_of_mem inside)
    refine List.mem_flatMap.mpr ⟨_, List.mem_append_left _ (List.mem_append_right _ declared), ?_⟩
    exact List.mem_map.mpr ⟨_, List.mem_append_left _ edge, rfl⟩
  · intro d member
    obtain ⟨zone, _, rfl⟩ := List.mem_map.mp member
    exact nofun
  · intro edge member spared
    obtain ⟨zone, _, rfl⟩ := List.mem_map.mp member
    rw [← checked.parameters] at spared
    obtain ⟨d, declared, named⟩ := List.mem_map.mp (List.mem_of_mem_filter spared)
    exact (checked.names d (List.mem_of_mem_filter declared)).2.ne .subnetOutput zone named

end Layout.Spreads

end Cluster

end StackTemplate
