import StackTemplate.Addressing
import StackTemplate.Tagging

namespace StackTemplate.Vpc
open Document

def declareZones (addressing : AddressingHandles) : Drafting (List ParameterHandle) :=
  addressing.zones.mapM fun zone =>
    declareParameter ⟨"az" ++ toString zone⟩ ((ParameterSpec.string.description
      s!"An availability zone identifier for zone '{zone}'").allowedPattern
      "[a-z]\x7b2\x7d-[a-z]+-\\d\\w")

structure Network where
  vpc : ResourceHandle
  routeTable : ResourceHandle

def Network.declare (addressing : AddressingHandles) (tags : TagHandles) : Drafting Network := do
  let vpc ← declareResource "CerberusVpc" "AWS::EC2::VPC"
    [("CidrBlock", .ref addressing.vpcBlock), ("EnableDnsSupport", true),
      ("EnableDnsHostnames", true), ("Tags", tags.tags)]
  -- The oldest region has a domain of its own; in all others the domain begins with the region.
  let eastOne ← declareCondition "RegionEqualsEastOne" (.equals (.pseudo .region) "us-east-1")
  let dhcpOptions ← declareResource "CerberusDhcpOptions" "AWS::EC2::DHCPOptions"
    [("DomainName", eastOne.choose "ec2.internal"
        (.join "." [.pseudo .region, .ref addressing.domainSuffix])),
      ("DomainNameServers", .list ["AmazonProvidedDNS"]), ("Tags", tags.tags)]
  let _ ← declareResource "CerberusVpcDhcpOptionsAssociation" "AWS::EC2::VPCDHCPOptionsAssociation"
    [("DhcpOptionsId", dhcpOptions.reference), ("VpcId", vpc.reference)]
  let routeTable ← declareResource "CerberusRouteTable" "AWS::EC2::RouteTable"
    [("VpcId", vpc.reference), ("Tags", tags.tags)]
  let gateway ← declareResource "CerberusInternetGateway" "AWS::EC2::InternetGateway"
    [("Tags", tags.tags)]
  let _ ← declareResource "CerberusRouteInternetGateway" "AWS::EC2::Route"
    [("DestinationCidrBlock", .ref addressing.gatewayBlock), ("GatewayId", gateway.reference),
      ("RouteTableId", routeTable.reference)]
  let _ ← declareResource "CerberusVpcGatewayAttachment" "AWS::EC2::VPCGatewayAttachment"
    [("InternetGatewayId", gateway.reference), ("VpcId", vpc.reference)]
  return { vpc, routeTable }

def Network.declareSubnet (network : Network) (tags : TagHandles) (zone : Nat) (block : Value)
    (name : ParameterHandle) : Drafting ResourceHandle := do
  let subnet ← declareResource ⟨"CerberusSubnetForAz" ++ toString zone⟩ "AWS::EC2::Subnet"
    [("AvailabilityZone", name.reference), ("CidrBlock", block), ("MapPublicIpOnLaunch", true),
      ("VpcId", network.vpc.reference), ("Tags", tags.tags)]
  let _ ← declareResource ⟨"CerberusSubnetRouteTableAssociationForAz" ++ toString zone⟩
    "AWS::EC2::SubnetRouteTableAssociation"
    [("RouteTableId", network.routeTable.reference), ("SubnetId", subnet.reference)]
  return subnet

def Network.declareSubnets (network : Network) (addressing : AddressingHandles)
    (zones : List ParameterHandle) (tags : TagHandles) : Drafting (List ResourceHandle) :=
  (addressing.numberedBlocks.zip zones).mapM fun ((zone, block), name) =>
    network.declareSubnet tags zone block name

def registerSubnetOutputs (addressing : AddressingHandles) (subnets : List ResourceHandle) :
    Drafting Unit :=
  (addressing.zones.zip subnets).forM fun (zone, subnet) =>
    declareOutput ⟨"vpcSubnetIdForAz" ++ toString zone⟩ subnet.reference

def Network.declareHostedZone (network : Network) (name : ParameterHandle) (tags : TagHandles) :
    Drafting ResourceHandle :=
  declareResource "CerberusInternalHostedZone" "AWS::Route53::HostedZone"
    [("Name", .join "." [.pseudo .region, name.reference]),
      ("VPCs", .list [.map [("VPCId", network.vpc.reference), ("VPCRegion", .pseudo .region)]]),
      ("HostedZoneTags", tags.tagMap),
      ("HostedZoneConfig", .map [("Comment", "The hosted zone for the Cerberus VPC")])]

end StackTemplate.Vpc
