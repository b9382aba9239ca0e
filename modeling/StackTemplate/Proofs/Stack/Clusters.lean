import StackTemplate.Proofs.Stack.Cluster

namespace StackTemplate
open Cluster

namespace Cluster

-- The capacity that the parameters give.
def ScalingGroup.sized (launched : ResourceHandle) (loadBalancer : Option ResourceHandle)
    (gracePeriod : Int) (healthCheck : String) (subnets updatePolicy : Value) : ScalingGroup :=
  { launchConfiguration := launched, loadBalancer, desired := capacity.desired.reference,
    maximum := capacity.maximum.reference, minimum := capacity.minimum.reference, gracePeriod,
    healthCheck, subnets, updatePolicy }

end Cluster

namespace Consul

def layout : Layout where
  early := [vpcParameter] ++ instanceParameters "Consul"
    ++ [ groupParameter "toolsIngressSgId" "Tools Ingress Security Group ID",
      groupParameter "consulClientSgId" "Consul Client Security Group ID",
      groupParameter "consulServerSgId" "Consul Server Security Group ID",
      keyPairParameter (some "cpe-cerberus"),
      textParameter "userData" "Consul User Data" ]
    ++ capacityParameters none
  late := []
  spreading subnets :=
    [ launched "ConsulLaunchConfiguration"
        [⟨"toolsIngressSgId"⟩, ⟨"consulClientSgId"⟩, ⟨"consulServerSgId"⟩],
      grouped "ConsulAutoScalingGroup" (.sized ⟨"ConsulLaunchConfiguration"⟩ none 60 "EC2" subnets
        (rollingUpdate 1 2 "PT15M" true)) ]
  last := groupOutputs ⟨"ConsulAutoScalingGroup"⟩ ⟨"ConsulLaunchConfiguration"⟩

theorem draft_registers (settings : Settings) :
    Registers (draft settings) (layout.declarations settings) () := by
  refine .of_eq (.bind settings.tagging.registers <| .bind vpc_registers <|
    .bind (instances_registers _) <| .bind (group_registers _ _) <| .bind (group_registers _ _) <|
    .bind (group_registers _ _) <| .bind (keyPair_registers _) <| .bind (userData_registers _) <|
    .bind (capacity_registers _) <| .bind (subnets_registers _) <| .bind (launched_registers _ _) <|
    .bind (grouped_registers _ _) <| outputs_registers _ _) ?_
  simp only [Layout.declarations, layout, List.append_assoc]
  rfl

theorem spreads : layout.Spreads := .of_group (fun _ => rfl) (fun _ => rfl)

theorem checked : Checked ["vpcId"] (layout.declarations .unzoned) := by decide +kernel

end Consul

namespace RdsBackup

def layout : Layout where
  early := [vpcParameter] ++ instanceParameters "RDS backup"
    ++ [ groupParameter "toolsIngressSgId" "Tools Ingress Security Group ID",
      groupParameter "cmsSgId" "CMS Security Group ID for servers" ]
  late := [keyPairParameter none, textParameter "userData" "RDS backup cluster user data"]
  spreading subnets :=
    [ launched "RdsBackupLaunchConfiguration" [⟨"toolsIngressSgId"⟩, ⟨"cmsSgId"⟩],
      grouped "RdsBackupAutoScalingGroup"
        { launchConfiguration := ⟨"RdsBackupLaunchConfiguration"⟩, desired := 1, maximum := 1,
          minimum := 1, gracePeriod := 60, healthCheck := "EC2", subnets,
          updatePolicy := rollingUpdate 1 0 "PT5M" false } ]
  last := groupOutputs ⟨"RdsBackupAutoScalingGroup"⟩ ⟨"RdsBackupLaunchConfiguration"⟩

theorem draft_registers (settings : Settings) :
    Registers (draft settings) (layout.declarations settings) () := by
  refine .of_eq (.bind settings.tagging.registers <| .bind vpc_registers <|
    .bind (instances_registers _) <| .bind (group_registers _ _) <| .bind (group_registers _ _) <|
    .bind (subnets_registers _) <| .bind (keyPair_registers _) <| .bind (userData_registers _) <|
    .bind (launched_registers _ _) <| .bind (grouped_registers _ _) <| outputs_registers _ _) ?_
  simp only [Layout.declarations, layout, List.append_assoc]
  rfl

theorem spreads : layout.Spreads := .of_group (fun _ => rfl) (fun _ => rfl)

theorem checked : Checked ["vpcId"] (layout.declarations .unzoned) := by decide +kernel

end RdsBackup

namespace Cms

def layout : Layout where
  early :=
    [ textParameter "certPublicKey"
        "TLS certificate public key to be used for backend authentication",
      textParameter "sslCertificateArn" "TLS certificate ARN for the CMS ELB",
      vpcParameter ]
    ++ instanceParameters "CMS"
    ++ [ groupParameter "cmsElbSgId" "CMS ELB Security Group ID",
      groupParameter "cmsSgId" "CMS Security Group ID",
      groupParameter "toolsIngressSgId" "Tools Ingress Security Group ID" ]
  late :=
    [ keyPairParameter (some "cpe-cerberus"),
      textParameter "userData" "CMS user data",
      textParameter "hostedZoneId" "The hosted zone id to associate the CNAME record with",
      textParameter "cname" "The CNAME to be created for the CMS ELB" ]
    ++ capacityParameters (some (3, 4, 3)) ++ updateParameters
  spreading subnets :=
    [ balanced "CmsElasticLoadBalancer"
        { policyName := "Cms", scheme := "internal", healthCheckTarget := "HTTP:8080/healthcheck",
          instancePort := 8080, instanceProtocol := "HTTP", certificate := ⟨"sslCertificateArn"⟩,
          group := ⟨"cmsElbSgId"⟩, subnets },
      launched "CmsLaunchConfiguration" [⟨"toolsIngressSgId"⟩, ⟨"cmsSgId"⟩],
      grouped "CmsAutoScalingGroup" (.sized ⟨"CmsLaunchConfiguration"⟩
        (some ⟨"CmsElasticLoadBalancer"⟩) 900 "ELB" subnets (update.policy capacity.minimum)),
      aliased "CmsRecordSet" (.ref "cname") (.getAtt "CmsElasticLoadBalancer" "DNSName") ]
  last := groupOutputs ⟨"CmsAutoScalingGroup"⟩ ⟨"CmsLaunchConfiguration"⟩
    ++ balancerOutputs ⟨"CmsElasticLoadBalancer"⟩

theorem draft_registers (settings : Settings) :
    Registers (draft settings) (layout.declarations settings) () := by
  refine .of_eq (.bind settings.tagging.registers <| .bind (text_registers _ _) <|
    .bind (text_registers _ _) <| .bind vpc_registers <| .bind (instances_registers _) <|
    .bind (group_registers _ _) <| .bind (group_registers _ _) <| .bind (group_registers _ _) <|
    .bind (subnets_registers _) <| .bind (keyPair_registers _) <| .bind (userData_registers _) <|
    .bind (text_registers _ _) <| .bind (text_registers _ _) <| .bind (capacity_registers _) <|
    .bind update_registers <| .bind (balanced_registers _ _) <| .bind (launched_registers _ _) <|
    .bind (grouped_registers _ _) <| .bind (aliased_registers _ _ _) <|
    .bind (outputs_registers _ _) <| balancerOutputs_registers _) ?_
  simp only [Layout.declarations, layout, List.append_assoc]
  rfl

theorem spreads : layout.Spreads :=
  .of_balanced (fun _ => rfl) (fun _ => rfl) (fun _ => rfl)

theorem checked : Checked ["certPublicKey", "vpcId"] (layout.declarations .unzoned) := by
  decide +kernel

end Cms

namespace Vault

def layout : Layout where
  early :=
    [ textParameter "certPublicKey"
        "TLS certificate public key to be used for backend authentication",
      textParameter "sslCertificateArn" "TLS certificate ARN for the ELB",
      vpcParameter ]
    ++ instanceParameters "Vault"
    ++ [ groupParameter "vaultServerElbSgId" "Vault Server ELB Security Group ID",
      groupParameter "toolsIngressSgId" "Tools Ingress Security Group ID",
      groupParameter "vaultClientSgId" "Vault Security Group ID for clients",
      groupParameter "vaultServerSgId" "Vault Security Group ID for servers",
      groupParameter "consulClientSgId" "Consul Client Security Group ID",
      groupParameter "consulServerSgId" "Consul Server Security Group ID" ]
  late :=
    [ keyPairParameter (some "cpe-cerberus"),
      textParameter "userData" "Vault User Data",
      textParameter "hostedZoneId" "The hosted zone id to associate the CNAME record with",
      textParameter "cname" "The CNAME to be created" ]
    ++ capacityParameters (some (3, 4, 3)) ++ updateParameters
  spreading subnets :=
    [ balanced "VaultElasticLoadBalancer"
        { policyName := "Vault", scheme := "internal",
          healthCheckTarget := "HTTPS:8200/v1/sys/health", instancePort := 8200,
          instanceProtocol := "HTTPS", certificate := ⟨"sslCertificateArn"⟩,
          instanceKey := some ⟨"certPublicKey"⟩, group := ⟨"vaultServerElbSgId"⟩, subnets },
      launched "VaultLaunchConfiguration" [⟨"toolsIngressSgId"⟩, ⟨"vaultClientSgId"⟩,
        ⟨"vaultServerSgId"⟩, ⟨"consulClientSgId"⟩, ⟨"consulServerSgId"⟩],
      grouped "VaultAutoScalingGroup" (.sized ⟨"VaultLaunchConfiguration"⟩
        (some ⟨"VaultElasticLoadBalancer"⟩) 60 "EC2" subnets (update.policy capacity.minimum)),
      aliased "VaultRecordSet" (.ref "cname") (.getAtt "VaultElasticLoadBalancer" "DNSName") ]
  last := groupOutputs ⟨"VaultAutoScalingGroup"⟩ ⟨"VaultLaunchConfiguration"⟩
    ++ balancerOutputs ⟨"VaultElasticLoadBalancer"⟩

theorem draft_registers (settings : Settings) :
    Registers (draft settings) (layout.declarations settings) () := by
  refine .of_eq (.bind settings.tagging.registers <| .bind (text_registers _ _) <|
    .bind (text_registers _ _) <| .bind vpc_registers <| .bind (instances_registers _) <|
    .bind (group_registers _ _) <| .bind (group_registers _ _) <| .bind (group_registers _ _) <|
    .bind (group_registers _ _) <| .bind (group_registers _ _) <| .bind (group_registers _ _) <|
    .bind (subnets_registers _) <| .bind (keyPair_registers _) <| .bind (userData_registers _) <|
    .bind (text_registers _ _) <| .bind (text_registers _ _) <| .bind (capacity_registers _) <|
    .bind update_registers <| .bind (balanced_registers _ _) <| .bind (launched_registers _ _) <|
    .bind (grouped_registers _ _) <| .bind (aliased_registers _ _ _) <|
    .bind (outputs_registers _ _) <| balancerOutputs_registers _) ?_
  simp only [Layout.declarations, layout, List.append_assoc]
  rfl

theorem spreads : layout.Spreads :=
  .of_balanced (fun _ => rfl) (fun _ => rfl) (fun _ => rfl)

theorem checked : Checked ["vpcId"] (layout.declarations .unzoned) := by decide +kernel

end Vault

namespace Gateway

theorem rule_registers (id metric : String) (data : ResourceHandle) (kind : String) :
    Registers (rule id metric data kind)
      [.resource id "AWS::WAF::Rule" (ruleProperties id metric data kind)] ⟨id⟩ := .resource _ _ _

theorem addressSet_registers (id : LogicalId) (name : String) :
    Registers (addressSet id name) [.resource id "AWS::WAF::IPSet" [("Name", name)]] ⟨id⟩ :=
  .resource _ _ _

theorem addressRule_registers (id : LogicalId) (name metric : String) (set : ResourceHandle) :
    Registers (addressRule id name metric set) [(Declaration.resource id "AWS::WAF::Rule"
      (ruleProperties name metric set "IPMatch")).after set.id] ⟨id⟩ := .builtResource rfl

def access : WebAcl where
  acl := ⟨"CerberusWAFWebAcl"⟩
  whiteList := ⟨"WAFWhiteListSet"⟩
  manualBlock := ⟨"WAFManualBlockSet"⟩
  autoBlock := ⟨"WAFAutoBlockSet"⟩

theorem access_registers :
    Registers (WebAcl.declare ⟨"hostname"⟩) (WebAcl.declare ⟨"hostname"⟩).made access := by
  refine .of_eq (.bind (.resource _ _ _) <| .bind (rule_registers _ _ _ _) <|
    .bind (.resource _ _ _) <| .bind (rule_registers _ _ _ _) <| .bind (.resource _ _ _) <|
    .bind (rule_registers _ _ _ _) <| .bind (addressSet_registers _ _) <|
    .bind (addressSet_registers _ _) <| .bind (addressSet_registers _ _) <|
    .bind (addressRule_registers _ _ _ _) <| .bind (addressRule_registers _ _ _ _) <|
    .bind (addressRule_registers _ _ _ _) <| .bind (.builtResource rfl) <| .done _) ?_
  rfl

-- The parts of the edge, which stands before the load balancer, each with the handles it is given.
def logProcessor : Drafting ResourceHandle :=
  declareLogProcessor ⟨"cloudFrontLogProcessorLambdaIamRoleArn"⟩ ⟨"wafLambdaBucket"⟩ ⟨"wafLambdaKey"⟩

def logBucket : Drafting ResourceHandle :=
  declareLogBucket ⟨"LambdaWAFBlacklistingFunction"⟩ ⟨"cloudFrontLogProcessorLambdaIamRoleArn"⟩
    Tagging.handles

def distribution : Drafting ResourceHandle :=
  declareDistribution ⟨"hostname"⟩ ⟨"sslCertificateId"⟩ access.acl ⟨"CloudFrontBucket"⟩

def edgeOutputs : Drafting Unit :=
  registerEdgeOutputs ⟨"CerberusDistribution"⟩ ⟨"CloudFrontBucket"⟩ access

theorem logProcessor_registers :
    Registers logProcessor logProcessor.made ⟨"LambdaWAFBlacklistingFunction"⟩ :=
  .of_eq (.bind (.resource _ _ _) (.bind (.builtResource rfl) (.done _))) (by rfl)

theorem logBucket_registers : Registers logBucket logBucket.made ⟨"CloudFrontBucket"⟩ :=
  .of_eq (.bind (.resource _ _ _) (.bind (.resource _ _ _) (.done _))) (by rfl)

theorem distribution_registers :
    Registers distribution distribution.made ⟨"CerberusDistribution"⟩ :=
  .of_eq (.resource _ _ _) (by rfl)

theorem edgeOutputs_registers : Registers edgeOutputs edgeOutputs.made () :=
  .of_eq (.bind (.output _ _) (.bind (.output _ _) (.bind (.output _ _) (.bind (.output _ _)
    (.bind (.output _ _) (.output _ _)))))) (by rfl)

def layout : Layout where
  early :=
    [ textParameter "certPublicKey"
        "TLS certificate public key to be used for backend authentication",
      textParameter "sslCertificateArn" "TLS certificate ARN for the ELB",
      textParameter "sslCertificateId"
        "TLS certificate ID for the CloudFront distribution and ELB",
      vpcParameter ]
    ++ instanceParameters "gateway"
    ++ [ groupParameter "gatewayElbSgId" "Gateway Server ELB Security Group ID",
      groupParameter "gatewayServerSgId" "Gateway Server Security Group ID",
      groupParameter "toolsIngressSgId" "Tools Ingress Security Group ID",
      textParameter "cloudFrontLogProcessorLambdaIamRoleArn" "The IAM Role Arn for the lambda" ]
  late :=
    [ keyPairParameter (some "cpe-cerberus"),
      textParameter "userData" "Gateway User Data",
      textParameter "hostedZoneId" "The hosted zone id to associate the CNAME record with",
      textParameter "hostname" "The base hostname for the public facing gateway / router",
      textParameter "wafLambdaBucket" "S3 Bucket for waf lambda function artifact",
      textParameter "wafLambdaKey" "Key for waf lambda function artifact" ]
    ++ capacityParameters none
  spreading subnets :=
    [ balanced "GatewayElasticLoadBalancer"
        { policyName := "Gateway", scheme := "internet-facing",
          healthCheckTarget := "HTTPS:443/sys/health", instancePort := 443,
          instanceProtocol := "HTTPS", certificate := ⟨"sslCertificateArn"⟩,
          instanceKey := some ⟨"certPublicKey"⟩, group := ⟨"gatewayElbSgId"⟩, subnets },
      launched "GatewayLaunchConfiguration" [⟨"toolsIngressSgId"⟩, ⟨"gatewayServerSgId"⟩],
      grouped "GatewayAutoScalingGroup" (.sized ⟨"GatewayLaunchConfiguration"⟩
        (some ⟨"GatewayElasticLoadBalancer"⟩) 300 "ELB" subnets
        (rollingUpdate 1 2 "PT15M" true)),
      aliased "OriginCerberusPublicRecordSet" (.join "." ["origin", .ref "hostname", ""])
        (.getAtt "GatewayElasticLoadBalancer" "CanonicalHostedZoneName") ]
  last := (WebAcl.declare ⟨"hostname"⟩).made ++ logProcessor.made ++ logBucket.made
    ++ distribution.made
    ++ [aliased "CerberusPublicRecordSet" (.join "." [.ref "hostname", ""])
      (.getAtt "CerberusDistribution" "DomainName")]
    ++ groupOutputs ⟨"GatewayAutoScalingGroup"⟩ ⟨"GatewayLaunchConfiguration"⟩
    ++ balancerOutputs ⟨"GatewayElasticLoadBalancer"⟩ ++ edgeOutputs.made

theorem draft_registers (settings : Settings) :
    Registers (draft settings) (layout.declarations settings) () := by
  refine .of_eq (.bind settings.tagging.registers <| .bind (text_registers _ _) <|
    .bind (text_registers _ _) <| .bind (text_registers _ _) <| .bind vpc_registers <|
    .bind (instances_registers _) <| .bind (group_registers _ _) <| .bind (group_registers _ _) <|
    .bind (group_registers _ _) <| .bind (text_registers _ _) <| .bind (subnets_registers _) <|
    .bind (keyPair_registers _) <| .bind (userData_registers _) <| .bind (text_registers _ _) <|
    .bind (text_registers _ _) <| .bind (text_registers _ _) <| .bind (text_registers _ _) <|
    .bind (capacity_registers _) <| .bind (balanced_registers _ _) <|
    .bind (launched_registers _ _) <| .bind (grouped_registers _ _) <|
    .bind (aliased_registers _ _ _) <| .bind access_registers <|
    .bind logProcessor_registers <| .bind logBucket_registers <| .bind distribution_registers <|
    .bind (aliased_registers _ _ _) <| .bind (outputs_registers _ _) <|
    .bind (balancerOutputs_registers _) <| edgeOutputs_registers) ?_
  simp only [Layout.declarations, layout, List.append_assoc]
  rfl

theorem spreads : layout.Spreads :=
  .of_balanced (fun _ => rfl) (fun _ => rfl) (fun _ => rfl)

theorem checked : Checked ["vpcId"] (layout.declarations .unzoned) := by decide +kernel

end Gateway

end StackTemplate
