import StackTemplate.Proofs.Stack.Cluster
import StackTemplate.Stack

namespace StackTemplate

namespace Vpc

-- The handles that are given out on the way, and what is made with them where no zone is concerned.
def zoneless : AddressingHandles := Settings.unzoned.addressing.handles

def database : DatabaseInputs where
  storage := ⟨"cmsDbAllocatedStorage"⟩
  size := ⟨"cmsDbInstanceSize"⟩
  name := ⟨"cmsDbName"⟩
  username := ⟨"cmsDbMasterUsername"⟩
  password := ⟨"cmsDbMasterPassword"⟩
  port := ⟨"cmsDbPort"⟩

def network : Network := ⟨⟨"CerberusVpc"⟩, ⟨"CerberusRouteTable"⟩⟩

def groups : SecurityGroups where
  toolsIngress := ⟨"ToolsIngressSg"⟩
  gatewayElb := ⟨"GatewayElbSg"⟩
  gatewayServer := ⟨"GatewayServerSg"⟩
  cmsElb := ⟨"CmsElbSg"⟩
  cms := ⟨"CmsSg"⟩
  cmsDb := ⟨"CmsDbSg"⟩
  vaultServerElb := ⟨"VaultServerElbSg"⟩
  vaultClient := ⟨"VaultClientSg"⟩
  vaultServer := ⟨"VaultServerSg"⟩
  consulClient := ⟨"ConsulClientSg"⟩
  consulServer := ⟨"ConsulServerSg"⟩

def roles : Roles where
  wafLambda := ⟨"WAFLambdaRole"⟩
  gateway := ⟨"GatewayIamRole"⟩
  cms := ⟨"CmsIamRole"⟩
  vault := ⟨"VaultIamRole"⟩
  consul := ⟨"ConsulIamRole"⟩

def profiles : Profiles where
  gateway := ⟨"GatewayInstanceProfile"⟩
  cms := ⟨"CmsInstanceProfile"⟩
  vault := ⟨"VaultInstanceProfile"⟩
  consul := ⟨"ConsulInstanceProfile"⟩

def storage : Storage := ⟨⟨"DashboardBucket"⟩, ⟨"CerberusConfigBucket"⟩, ⟨"ConfigFileKey"⟩⟩

def admin : ParameterHandle := ⟨"accountAdminArn"⟩
def hostedZoneName : ParameterHandle := ⟨"vpcHostedZoneName"⟩

theorem ingress_registers (id : LogicalId) (group source : ResourceHandle) (protocol : String)
    (port : Value) : Registers (ingress id group source protocol port)
      [.resource id ingressKind (ingressProperties group source protocol port)] () :=
  .of_eq (.bind (.resource _ _ _) (.done _)) (List.append_nil _).symm

theorem database_registers : Registers DatabaseInputs.declare DatabaseInputs.declare.made database :=
  .of_eq (.bind (.parameter _ _) <| .bind (.parameter _ _) <| .bind (.parameter _ _) <|
    .bind (.parameter _ _) <| .bind (.parameter _ _) <| .bind (.parameter _ _) <| .done _) (by rfl)

theorem network_registers (addressing : Addressing) :
    Registers (Network.declare addressing.handles Tagging.handles)
      (Network.declare zoneless Tagging.handles).made network := by
  have same : Network.declare addressing.handles Tagging.handles =
      Network.declare zoneless Tagging.handles := rfl
  rw [same]
  exact .of_eq (.bind (.resource _ _ _) <| .bind (.condition _ _) <| .bind (.resource _ _ _) <|
    .bind (.resource _ _ _) <| .bind (.resource _ _ _) <| .bind (.resource _ _ _) <|
    .bind (.resource _ _ _) <| .bind (.resource _ _ _) <| .done _) (by rfl)

theorem groups_registers : Registers (SecurityGroups.declare network.vpc Tagging.handles)
    (SecurityGroups.declare network.vpc Tagging.handles).made groups :=
  .of_eq (.bind (.resource _ _ _) <| .bind (.resource _ _ _) <| .bind (.resource _ _ _) <|
    .bind (.resource _ _ _) <| .bind (.resource _ _ _) <| .bind (.resource _ _ _) <|
    .bind (.resource _ _ _) <| .bind (.resource _ _ _) <| .bind (.resource _ _ _) <|
    .bind (.resource _ _ _) <| .bind (.resource _ _ _) <| .done _) (by rfl)

theorem ingress_all_registers (addressing : Addressing) :
    Registers (groups.declareIngress addressing.handles database.port)
      (groups.declareIngress zoneless database.port).made () := by
  have same : groups.declareIngress addressing.handles database.port =
      groups.declareIngress zoneless database.port := rfl
  rw [same]
  refine .of_eq (.bind (.resource _ _ _) <| .bind (ingress_registers _ _ _ _ _) <|
    .bind (ingress_registers _ _ _ _ _) <| .bind (ingress_registers _ _ _ _ _) <|
    .bind (.forM (fun _ => ingress_registers _ _ _ _ _) _) <| .bind (ingress_registers _ _ _ _ _) <|
    .bind (ingress_registers _ _ _ _ _) <| .bind (.forM (fun _ => ingress_registers _ _ _ _ _) _) <|
    .bind (ingress_registers _ _ _ _ _) <| .bind (ingress_registers _ _ _ _ _) <|
    .forM (fun _ => .forM (fun _ => ingress_registers _ _ _ _ _) _) _) ?_
  rfl

theorem roles_registers : Registers Roles.declare Roles.declare.made roles :=
  .of_eq (.bind (.resource _ _ _) <| .bind (.resource _ _ _) <| .bind (.resource _ _ _) <|
    .bind (.resource _ _ _) <| .bind (.resource _ _ _) <| .done _) (by rfl)

theorem profiles_registers :
    Registers (Profiles.declare roles) (Profiles.declare roles).made profiles :=
  .of_eq (.bind (.resource _ _ _) <| .bind (.resource _ _ _) <| .bind (.resource _ _ _) <|
    .bind (.resource _ _ _) <| .done _) (by rfl)

theorem storage_registers : Registers (Storage.declare roles admin Tagging.handles)
    (Storage.declare roles admin Tagging.handles).made storage :=
  .of_eq (.bind (.resource _ _ _) <| .bind (.resource _ _ _) <| .bind (.resource _ _ _) <|
    .bind (.resource _ _ _) <| .bind (.resource _ _ _) <| .done _) (by rfl)

theorem keyManagement_registers :
    Registers roles.declareKeyManagement roles.declareKeyManagement.made ⟨"CmsKmsPolicy"⟩ :=
  .of_eq (.resource _ _ _) (by rfl)

theorem instance_registers :
    Registers (database.declareInstance ⟨"CmsDatabaseSubnetGroup"⟩ groups Tagging.handles)
      (database.declareInstance ⟨"CmsDatabaseSubnetGroup"⟩ groups Tagging.handles).made
      ⟨"CmsDatabase"⟩ :=
  .of_eq (.bind (.resource _ _ _) <| .resource _ _ _) (by rfl)

theorem hostedZone_registers :
    Registers (network.declareHostedZone hostedZoneName Tagging.handles)
      (network.declareHostedZone hostedZoneName Tagging.handles).made
      ⟨"CerberusInternalHostedZone"⟩ :=
  .of_eq (.resource _ _ _) (by rfl)

theorem accessOutputs_registers :
    Registers (registerAccessOutputs roles profiles) (registerAccessOutputs roles profiles).made () :=
  .of_eq (.bind (.output _ _) <| .bind (.output _ _) <| .bind (.output _ _) <|
    .bind (.output _ _) <| .bind (.output _ _) <| .bind (.output _ _) <| .bind (.output _ _) <|
    .bind (.output _ _) <| .output _ _) (by rfl)

theorem groupOutputs_registers :
    Registers groups.registerOutputs groups.registerOutputs.made () :=
  .of_eq (.forM (fun _ => .output _ _) _) (by rfl)

theorem storageOutputs_registers :
    Registers storage.registerOutputs storage.registerOutputs.made () :=
  .of_eq (.bind (.output _ _) <| .bind (.output _ _) <| .bind (.output _ _) <|
    .bind (.output _ _) <| .output _ _) (by rfl)

theorem databaseOutputs_registers :
    Registers (database.registerOutputs ⟨"CmsDatabase"⟩)
      (database.registerOutputs ⟨"CmsDatabase"⟩).made () :=
  .of_eq (.bind (.output _ _) <| .bind (.output _ _) <| .bind (.output _ _) <|
    .bind (.register _) <| .done _) (by rfl)

def zoneParameter (zone : Nat) : Declaration :=
  .parameter (Zone.Family.zone.name zone) ((ParameterSpec.string.description
    s!"An availability zone identifier for zone '{zone}'").allowedPattern
    "[a-z]\x7b2\x7d-[a-z]+-\\d\\w")

def zoneName (zone : Nat) : ParameterHandle := ⟨Zone.Family.zone.name zone⟩

def subnet (zone : Nat) : ResourceHandle := ⟨Zone.Family.subnet.name zone⟩

def subnetResources (zone : Nat) : List Declaration :=
  [ .resource (Zone.Family.subnet.name zone) "AWS::EC2::Subnet"
      [("AvailabilityZone", .ref (Zone.Family.zone.name zone)),
        ("CidrBlock", .ref (Zone.Family.block.name zone)), ("MapPublicIpOnLaunch", true),
        ("VpcId", network.vpc.reference), ("Tags", Tagging.handles.tags)],
    .resource (Zone.Family.association.name zone) "AWS::EC2::SubnetRouteTableAssociation"
      [("RouteTableId", network.routeTable.reference),
        ("SubnetId", .ref (Zone.Family.subnet.name zone))] ]

def subnetGroup (zones : List Nat) : Declaration :=
  .resource "CmsDatabaseSubnetGroup" "AWS::RDS::DBSubnetGroup"
    [("DBSubnetGroupDescription", "DB Subnet Group for management DB"),
      ("SubnetIds", .list (zones.map fun zone => .ref (Zone.Family.subnet.name zone)))]

def subnetOutput (zone : Nat) : Declaration :=
  .output (Zone.Family.subnetOutput.name zone) (.ref (Zone.Family.subnet.name zone))

def blockOutput (zone : Nat) : Declaration :=
  (Declaration.output (Zone.Family.blockOutput.name zone)
    (.ref (Zone.Family.block.name zone))).describe s!"Cidr block for subnet in AZ '{zone}'"

section
variable (addressing : Addressing)

theorem zones_registers : Registers (declareZones addressing.handles)
    (addressing.zones.map zoneParameter) (addressing.zones.map zoneName) := by
  rw [declareZones, addressing.handles_zones]
  exact .of_eq (.mapM (fun _ => .parameter _ _) _) List.map_eq_flatMap

theorem subnet_registers (zone : Nat) :
    Registers (network.declareSubnet Tagging.handles zone (.ref (Addressing.subnetBlockId zone))
      (zoneName zone)) (subnetResources zone) (subnet zone) :=
  .of_eq (.bind (.resource _ _ _) <| .bind (.resource _ _ _) <| .done _) rfl

-- The blocks and the names of the zones are lists of their own, but they follow the same numbers.
theorem subnets_registers :
    Registers (network.declareSubnets addressing.handles (addressing.zones.map zoneName)
      Tagging.handles) (addressing.zones.flatMap subnetResources) (addressing.zones.map subnet) := by
  rw [Network.declareSubnets, addressing.numberedBlocks_eq, List.zip_map', List.mapM_map]
  exact .mapM subnet_registers addressing.zones

theorem subnetGroup_registers : Registers (declareSubnetGroup (addressing.zones.map subnet))
    [subnetGroup addressing.zones] ⟨"CmsDatabaseSubnetGroup"⟩ := by
  rw [declareSubnetGroup, List.map_map]
  exact .resource _ _ _

theorem subnetOutputs_registers :
    Registers (registerSubnetOutputs addressing.handles (addressing.zones.map subnet))
      (addressing.zones.map subnetOutput) () := by
  rw [registerSubnetOutputs, addressing.handles_zones, ← List.map_prod_left_eq_zip]
  refine .of_eq (.forM (fun _ => .output _ _) _) ?_
  rw [List.flatMap_map]
  exact List.map_eq_flatMap

theorem blockOutputs_registers :
    Registers addressing.handles.registerOutputs (addressing.zones.map blockOutput) () := by
  have outputs : addressing.handles.outputs = addressing.zones.map blockOutput :=
    addressing.outputs_eq
  rw [← outputs]
  exact .of_outcome (Document.outputs_on addressing.handles)

end

def parameters (settings : Settings) : List Declaration :=
  settings.tagging.parameters ++ settings.addressing.parameters
  ++ [.parameter "accountAdminArn" (ParameterSpec.string.description
    "The ARN for a IAM user, group or role that can create this stack.")]
  ++ settings.addressing.zones.map zoneParameter ++ DatabaseInputs.declare.made
  ++ [.parameter "vpcHostedZoneName" (ParameterSpec.string.description
    "The hosted zone name used in the Cerberus VPC")]

def networkResources : List Declaration := (Network.declare zoneless Tagging.handles).made

def sharedResources : List Declaration :=
  (SecurityGroups.declare network.vpc Tagging.handles).made
  ++ (groups.declareIngress zoneless database.port).made
  ++ Roles.declare.made ++ (Profiles.declare roles).made
  ++ (Storage.declare roles admin Tagging.handles).made ++ roles.declareKeyManagement.made

def lastResources : List Declaration :=
  (database.declareInstance ⟨"CmsDatabaseSubnetGroup"⟩ groups Tagging.handles).made
  ++ (network.declareHostedZone hostedZoneName Tagging.handles).made

def resources (zones : List Nat) : List Declaration :=
  networkResources ++ zones.flatMap subnetResources ++ sharedResources ++ [subnetGroup zones]
  ++ lastResources

def sharedOutputs : List Declaration :=
  [.output "vpcId" network.vpc.reference] ++ (registerAccessOutputs roles profiles).made
  ++ groups.registerOutputs.made ++ storage.registerOutputs.made
  ++ (database.registerOutputs ⟨"CmsDatabase"⟩).made
  ++ [(Declaration.output "vpcHostedZoneId" (.ref "CerberusInternalHostedZone")).describe
    "The VPC hosted zone ID"]

def outputs (zones : List Nat) : List Declaration :=
  sharedOutputs ++ zones.map subnetOutput
  ++ [(Declaration.output "cmsKmsPolicyId" (.ref "CmsKmsPolicy")).describe
    "The policy id for CMS managing KMS keys"]
  ++ zones.map blockOutput

def declarations (settings : Settings) : List Declaration :=
  parameters settings ++ resources settings.addressing.zones ++ outputs settings.addressing.zones

theorem draft_registers (settings : Settings) :
    Registers (draft settings) (declarations settings) () := by
  refine .of_eq (.bind settings.tagging.registers <| .bind settings.addressing.registers <|
    .bind (.parameter _ _) <| .bind (zones_registers _) <| .bind database_registers <|
    .bind (.parameter _ _) <| .bind (network_registers _) <| .bind (subnets_registers _) <|
    .bind groups_registers <| .bind (ingress_all_registers _) <| .bind roles_registers <|
    .bind profiles_registers <| .bind storage_registers <| .bind keyManagement_registers <|
    .bind (subnetGroup_registers _) <| .bind instance_registers <| .bind hostedZone_registers <|
    .bind (.output _ _) <| .bind accessOutputs_registers <| .bind groupOutputs_registers <|
    .bind storageOutputs_registers <| .bind databaseOutputs_registers <| .bind (.register _) <|
    .bind (subnetOutputs_registers _) <| .bind (.register _) <| blockOutputs_registers _) ?_
  simp only [declarations, parameters, resources, outputs, networkResources, sharedResources,
    lastResources, sharedOutputs, List.append_assoc]
  rfl

end Vpc

end StackTemplate
