import StackTemplate.Document

namespace StackTemplate

-- The blocks of a network. It has as many zones as subnet blocks, counted from one.
structure Addressing where
  vpcBlock : String := "172.20.0.0/20"
  gatewayBlock : String := "0.0.0.0/0"
  subnetBlocks : List String := ["172.20.0.0/24", "172.20.4.0/24", "172.20.8.0/24"]
  deriving DecidableEq, Repr

structure AddressingHandles where
  domainSuffix : LogicalId
  gatewayBlock : LogicalId
  vpcBlock : LogicalId
  subnetBlocks : List LogicalId
  deriving DecidableEq, Repr

namespace Addressing

def domainSuffixId : LogicalId := "ec2ComputeDomainNameSuffix"
def gatewayBlockId : LogicalId := "gatewayCidrBlock"
def vpcBlockId : LogicalId := "vpcCidrBlock"

def subnetBlockId (zone : Nat) : LogicalId := ⟨"subnetCidrBlockForAz" ++ toString zone⟩

def subnetOutputId (zone : Nat) : LogicalId := ⟨"vpcSubnetCidrBlockForAz" ++ toString zone⟩

def zoneCount (addressing : Addressing) : Nat := addressing.subnetBlocks.length

def blockSpec (description block : String) : ParameterSpec :=
  ((((ParameterSpec.string.description description).minLength 9).maxLength 20).allowedPattern
    "[0-9./]*").default block

def subnetParameter (zone : Nat) (block : String) : Declaration :=
  .parameter (subnetBlockId zone) (blockSpec s!"Cidr block for subnet in AZ '{zone}'" block)

def parameters (addressing : Addressing) : List Declaration :=
  [ .parameter domainSuffixId ((ParameterSpec.string.description
      "The suffix the region will be appended to for the VPC's internal DNS").default
      "compute.internal"),
    .parameter gatewayBlockId (blockSpec
      "The internet gateway CIDR block for where traffic is allowed from" addressing.gatewayBlock),
    .parameter vpcBlockId (blockSpec
      "The VPC's CIDR block for internal IPv4 addressing" addressing.vpcBlock) ]
  ++ (addressing.subnetBlocks.zipIdx.map fun (block, index) => subnetParameter (index + 1) block)

-- The handles of the zones are the names that follow the three of the network itself.
def registerInto (addressing : Addressing) : Drafting AddressingHandles := do
  let ids ← Document.registerAll addressing.parameters
  return { domainSuffix := domainSuffixId, gatewayBlock := gatewayBlockId,
           vpcBlock := vpcBlockId, subnetBlocks := ids.drop 3 }

def subnetOutput (zone : Nat) (block : LogicalId) : Declaration :=
  (Declaration.output (subnetOutputId zone) (.ref block)).describe
    s!"Cidr block for subnet in AZ '{zone}'"

end Addressing

namespace AddressingHandles

def zones (handles : AddressingHandles) : List Nat := List.range' 1 handles.subnetBlocks.length

def subnetBlock? (handles : AddressingHandles) : (zone : Nat) → Option Value
  | 0 => none
  | index + 1 => handles.subnetBlocks[index]?.map .ref

def numberedBlocks (handles : AddressingHandles) : List (Nat × Value) :=
  handles.subnetBlocks.zipIdx.map fun (id, index) => (index + 1, .ref id)

def outputs (handles : AddressingHandles) : List Declaration :=
  handles.subnetBlocks.zipIdx.map fun (id, index) => Addressing.subnetOutput (index + 1) id

def registerOutputs (handles : AddressingHandles) : Drafting Unit := do
  let _ ← Document.registerAll handles.outputs

end AddressingHandles

end StackTemplate
