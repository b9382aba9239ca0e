import StackTemplate.Addressing
import StackTemplate.Tagging

namespace StackTemplate.Vpc
open Document

structure SecurityGroups where
  toolsIngress : ResourceHandle
  gatewayElb : ResourceHandle
  gatewayServer : ResourceHandle
  cmsElb : ResourceHandle
  cms : ResourceHandle
  cmsDb : ResourceHandle
  vaultServerElb : ResourceHandle
  vaultClient : ResourceHandle
  vaultServer : ResourceHandle
  consulClient : ResourceHandle
  consulServer : ResourceHandle

def securityGroup (vpc : ResourceHandle) (id : LogicalId) (text : String) (tags : Value) :
    Drafting ResourceHandle :=
  declareResource id "AWS::EC2::SecurityGroup"
    [("GroupDescription", text), ("VpcId", vpc.reference), ("Tags", tags)]

namespace SecurityGroups

def declare (vpc : ResourceHandle) (tags : TagHandles) : Drafting SecurityGroups := do
  let group (id : LogicalId) (text : String) := securityGroup vpc id text tags.tags
  return {
    toolsIngress := ← group "ToolsIngressSg" "Administration ingress from tools NAT boxes"
    gatewayElb := ← securityGroup vpc "GatewayElbSg" "Gateway ELB Security Group" tags.gatewayTags
    gatewayServer := ← group "GatewayServerSg" "Gateway Server Instance Security Group"
    cmsElb := ← group "CmsElbSg" "Management Server ELB Security Group"
    cms := ← group "CmsSg" "Management Server Instance Security Group"
    cmsDb := ← group "CmsDbSg" "Management Server Database Security Group"
    vaultServerElb := ← group "VaultServerElbSg" "Vault ServerELB Security Group"
    vaultClient := ← group "VaultClientSg" "Vault Client Security Group"
    vaultServer := ← group "VaultServerSg" "Vault Server Security Group"
    consulClient := ← group "ConsulClientSg" "Consul Client Security Group"
    consulServer := ← group "ConsulServerSg" "Consul Server Security Group" }

def outputs (groups : SecurityGroups) : List (LogicalId × ResourceHandle) :=
  [("toolsIngressSgId", groups.toolsIngress), ("gatewayElbSgId", groups.gatewayElb),
    ("gatewayServerSgId", groups.gatewayServer), ("cmsElbSgId", groups.cmsElb),
    ("cmsSgId", groups.cms), ("cmsDbSgId", groups.cmsDb),
    ("vaultServerElbSgId", groups.vaultServerElb), ("vaultClientSgId", groups.vaultClient),
    ("vaultServerSgId", groups.vaultServer), ("consulClientSgId", groups.consulClient),
    ("consulServerSgId", groups.consulServer)]

def registerOutputs (groups : SecurityGroups) : Drafting Unit :=
  groups.outputs.forM fun (id, group) => declareOutput id (group.attributeOf "GroupId")

end SecurityGroups

def portRange (protocol : String) (port : Value) : Entries Value :=
  [("FromPort", port), ("IpProtocol", protocol), ("ToPort", port)]

def ingressKind : String := "AWS::EC2::SecurityGroupIngress"

def ingressProperties (group source : ResourceHandle) (protocol : String) (port : Value) :
    Entries Value :=
  [("GroupId", group.reference), ("SourceSecurityGroupId", source.reference)]
    ++ portRange protocol port

-- Lets the second group into the first on one port.
def ingress (id : LogicalId) (group source : ResourceHandle) (protocol : String) (port : Value) :
    Drafting Unit := do
  let _ ← declareResource id ingressKind (ingressProperties group source protocol port)

def number (port : Nat) : Value := .number (.int port)

def cmsPorts : List Nat := [8443, 8080, 8077]
def vaultPorts : List Nat := [8200, 8201]
def gossipPorts : List Nat := [8301, 8302]

def SecurityGroups.declareIngress (groups : SecurityGroups) (addressing : AddressingHandles)
    (databasePort : ParameterHandle) : Drafting Unit := do
  let _ ← declareResource "GatewayElbIngressFromInternetSg443" ingressKind
    ([("GroupId", groups.gatewayElb.reference), ("CidrIp", .ref addressing.gatewayBlock)]
      ++ portRange "tcp" 443)
  ingress "GatewayServerIngressFromGatewayElb443" groups.gatewayServer groups.gatewayElb "tcp" 443
  ingress "CmsElbFromGatewayServer443" groups.cmsElb groups.gatewayServer "tcp" 443
  ingress "VaultServerElbFromGatewayServer443" groups.vaultServerElb groups.gatewayServer "tcp" 443
  cmsPorts.forM fun port =>
    ingress ⟨"CmsIngressFromCmsElb" ++ toString port⟩ groups.cms groups.cmsElb "tcp" (number port)
  ingress "VaultElbIngressFromCms443" groups.vaultServerElb groups.cms "tcp" 443
  ingress "CmsDbFromCms" groups.cmsDb groups.cms "tcp" databasePort.reference
  vaultPorts.forM fun port =>
    ingress ⟨"VaultServerIngressFromVaultElb" ++ toString port⟩ groups.vaultServer
      groups.vaultServerElb "tcp" (number port)
  ingress "VaultServerIngress8200" groups.vaultServer groups.vaultClient "tcp" 8200
  ingress "ConsulServerIngress8300" groups.consulServer groups.consulClient "tcp" 8300
  gossipPorts.forM fun port =>
    [("Tcp", "tcp"), ("Udp", "udp")].forM fun (name, protocol) =>
      ingress ⟨"ConsulServerIngress" ++ name ++ toString port⟩ groups.consulServer
        groups.consulClient protocol (number port)

end StackTemplate.Vpc
