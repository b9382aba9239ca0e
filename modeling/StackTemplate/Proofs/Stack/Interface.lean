import StackTemplate.Proofs.Stack.Outcome

namespace StackTemplate

def Zone.Family.among (family : Zone.Family) (sec : Section) (ds : List Declaration) :
    List LogicalId :=
  ((ds.filter (·.sec = sec)).map (·.id)).filter (family.Begins ·)

section
variable {sec : Section} {family : Zone.Family} {ds : List Declaration}

theorem Zone.Family.among_append (front back : List Declaration) :
    family.among sec (front ++ back) = family.among sec front ++ family.among sec back := by
  simp [Zone.Family.among]

theorem Zone.Family.among_none (other : ∀ d ∈ ds, d.sec = sec → ¬ family.Begins d.id) :
    family.among sec ds = [] := by
  rw [Zone.Family.among, List.filter_eq_nil_iff]
  intro id member
  obtain ⟨d, inside, rfl⟩ := List.mem_map.mp member
  obtain ⟨held, same⟩ := List.mem_filter.mp inside
  simpa using other d held (by simpa using same)

theorem Zone.Family.among_zones {make : Nat → Declaration} (held : ∀ zone, (make zone).sec = sec)
    (named : ∀ zone, (make zone).id = family.name zone) (zones : List Nat) :
    family.among sec (zones.map make) = zones.map family.name := by
  have kept : (zones.map make).filter (·.sec = sec) = zones.map make := by
    rw [List.filter_eq_self]
    intro d member
    obtain ⟨zone, _, rfl⟩ := List.mem_map.mp member
    simpa using held zone
  have names : (zones.map make).map (·.id) = zones.map family.name := by
    rw [List.map_map]
    exact List.map_congr_left fun zone _ => named zone
  rw [Zone.Family.among, kept, names, List.filter_eq_self]
  intro id member
  obtain ⟨zone, _, rfl⟩ := List.mem_map.mp member
  simpa using family.begins_name zone

-- A network grows by the names that are put in, and a stack without zones has none of them.
theorem Grown.among_eq {extra : List Edge} {known : List Use} {added bare wide : List Declaration}
    {spare : List LogicalId} (grown : Grown extra known added bare wide)
    (checked : Checked spare bare) :
    family.among sec wide = family.among sec added := by
  refine grown.selected_added fun d member => ?_
  simpa using (checked.names d member).2.not_begins family

end

-- The kinds of what only the network stack makes, and the names under which it publishes that.
def networkKinds : List String := ["AWS::EC2::SecurityGroup::Id", "AWS::EC2::VPC::Id"]

def networkNames : List LogicalId :=
  ["vpcId", "toolsIngressSgId", "gatewayElbSgId", "gatewayServerSgId", "cmsElbSgId", "cmsSgId",
    "cmsDbSgId", "vaultServerElbSgId", "vaultClientSgId", "vaultServerSgId", "consulClientSgId",
    "consulServerSgId"]

-- A parameter of such a kind goes by a name that is published.
def Declaration.fits (d : Declaration) : Bool :=
  d.sec ≠ .parameter || d.kind ∉ networkKinds || d.id ∈ networkNames

theorem Declaration.name_published {d : Declaration} (fits : d.fits = true)
    (parameter : d.sec = .parameter) (kind : d.kind ∈ networkKinds) : d.id ∈ networkNames := by
  simpa [Declaration.fits, parameter, kind] using fits

namespace Cluster

theorem subnetParameters_fit (zones : List Nat) : (subnetParameters zones).all (·.fits) = true := by
  rw [List.all_eq_true]
  intro d member
  obtain ⟨zone, _, rfl⟩ := List.mem_map.mp member
  rfl

theorem subnetParameters_among (zones : List Nat) :
    Zone.Family.subnetOutput.among .parameter (subnetParameters zones) =
      zones.map Zone.Family.subnetOutput.name := by
  refine Zone.Family.among_zones ?_ ?_ zones
  · exact fun _ => rfl
  · exact fun _ => rfl

-- Besides the parameters of the zones, all that a layout declares is named for the network.
structure Layout.Fits (layout : Layout) : Prop where
  early : layout.early.all (·.fits) = true
  late : layout.late.all (·.fits) = true
  spreading : ∀ subnets, (layout.spreading subnets).all (·.fits) = true
  last : layout.last.all (·.fits) = true

-- A cluster takes what the network publishes, and the subnets of all its zones in order.
structure Connects (zones : List Nat) (ds : List Declaration) : Prop where
  fits : ds.all (·.fits) = true
  subnets : Zone.Family.subnetOutput.among .parameter ds =
    zones.map Zone.Family.subnetOutput.name

theorem Layout.Spreads.connects {layout : Layout} {spare : List LogicalId}
    (spreads : layout.Spreads) (checked : Checked spare (layout.declarations .unzoned))
    (fits : layout.Fits) (settings : Settings) :
    Connects settings.addressing.zones (layout.declarations settings) := by
  have tags : settings.tagging.parameters.all (·.fits) = true := rfl
  refine ⟨?_, ((spreads.grown settings).among_eq checked).trans (subnetParameters_among _)⟩
  simp only [Layout.declarations, List.all_append, tags, fits.early, subnetParameters_fit, fits.late,
    fits.spreading, fits.last, Bool.and_self]

end Cluster

namespace Vpc

theorem subnetOutputs_among (zones : List Nat) :
    Zone.Family.subnetOutput.among .output (zones.map subnetOutput) =
      zones.map Zone.Family.subnetOutput.name := by
  refine Zone.Family.among_zones ?_ ?_ zones
  · exact fun _ => rfl
  · exact fun _ => rfl

theorem blockOutputs_among (zones : List Nat) :
    Zone.Family.subnetOutput.among .output (zones.map blockOutput) = [] := by
  refine Zone.Family.among_none fun d member _ begins => ?_
  obtain ⟨zone, _, rfl⟩ := List.mem_map.mp member
  have same : Zone.Family.subnetOutput = .blockOutput := Zone.Family.Begins.family_eq begins
  cases same

theorem zoneDeclarations_among (settings : Settings) :
    Zone.Family.subnetOutput.among .output (zoneDeclarations settings) =
      settings.addressing.zones.map Zone.Family.subnetOutput.name := by
  have silent : ∀ d ∈ settings.addressing.subnetParameters ++ settings.addressing.zones.map zoneParameter
      ++ settings.addressing.zones.flatMap subnetResources, d.sec ≠ .output := by
    intro d member
    simp only [List.mem_append] at member
    rcases member with (block | zoned) | subnet
    · obtain ⟨⟨block, zone⟩, _, rfl⟩ := List.mem_map.mp block
      exact nofun
    · obtain ⟨zone, _, rfl⟩ := List.mem_map.mp zoned
      exact nofun
    · obtain ⟨zone, _, made⟩ := List.mem_flatMap.mp subnet
      rcases List.mem_pair.mp made with rfl | rfl <;> exact nofun
  rw [zoneDeclarations, Zone.Family.among_append,
    Zone.Family.among_none fun d member output => absurd output (silent d member),
    Zone.Family.among_append, subnetOutputs_among, blockOutputs_among, List.nil_append,
    List.append_nil]

theorem published (settings : Settings) {id : LogicalId} (name : id ∈ networkNames) :
    ∃ d ∈ declarations settings, d.sec = .output ∧ d.id = id := by
  have all : ∀ id ∈ networkNames, ∃ d ∈ sharedOutputs, d.sec = .output ∧ d.id = id := by
    decide +kernel
  obtain ⟨d, member, found⟩ := all id name
  have output : d ∈ outputs settings.addressing.zones := by
    simp only [outputs, List.mem_append]
    exact .inl (.inl (.inl member))
  exact ⟨d, List.mem_append_right _ output, found⟩

end Vpc

namespace Stack

theorem cluster_connects {stack : Stack} (settings : Settings)
    (cluster : stack ∈ [Stack.consul, .gateway, .cms, .vault, .rdsBackup]) :
    Cluster.Connects settings.addressing.zones (stack.declarations settings) := by
  cases stack with
  | consul => exact Consul.spreads.connects Consul.checked ⟨rfl, rfl, fun _ => rfl, rfl⟩ settings
  | gateway =>
    exact Gateway.spreads.connects Gateway.checked ⟨rfl, rfl, fun _ => rfl, by rfl⟩ settings
  | cms => exact Cms.spreads.connects Cms.checked ⟨rfl, rfl, fun _ => rfl, rfl⟩ settings
  | vault => exact Vault.spreads.connects Vault.checked ⟨rfl, rfl, fun _ => rfl, rfl⟩ settings
  | rdsBackup =>
    exact RdsBackup.spreads.connects RdsBackup.checked ⟨rfl, rfl, fun _ => rfl, rfl⟩ settings
  | vpc => exact absurd cluster (by decide)
  | lambda => exact absurd cluster (by decide)

-- Under the same settings, whatever a cluster stack takes from the network is published by the
-- network stack under the same name, and the subnets are the same ones in the same order.
theorem build_connects (settings : Settings) :
    ∃ network, Stack.vpc.build settings = .ok network ∧
      Zone.Family.subnetOutput.among .output network.declarations =
        settings.addressing.zones.map Zone.Family.subnetOutput.name ∧
      ∀ stack ∈ [Stack.consul, .gateway, .cms, .vault, .rdsBackup],
        ∃ doc, stack.build settings = .ok doc ∧
          (∀ d ∈ doc.ofSection .parameter,
            d.kind ∈ ["AWS::EC2::SecurityGroup::Id", "AWS::EC2::VPC::Id"] →
              ∃ output ∈ network.ofSection .output, output.id = d.id) ∧
          Zone.Family.subnetOutput.among .parameter doc.declarations =
            Zone.Family.subnetOutput.among .output network.declarations := by
  have subnets : Zone.Family.subnetOutput.among .output (Stack.vpc.declarations settings) =
      settings.addressing.zones.map Zone.Family.subnetOutput.name :=
    ((Vpc.declarations_grown settings).among_eq Vpc.checked).trans
      (Vpc.zoneDeclarations_among settings)
  refine ⟨_, Stack.vpc.build_eq settings, subnets, fun stack member => ?_⟩
  have connects := cluster_connects settings member
  refine ⟨_, stack.build_eq settings, ?_, connects.subnets.trans subnets.symm⟩
  intro d inside kind
  obtain ⟨declared, parameter⟩ := List.mem_filter.mp inside
  have name := Declaration.name_published (List.all_eq_true.mp connects.fits d declared)
    (of_decide_eq_true parameter) kind
  obtain ⟨output, published, sec, same⟩ := Vpc.published settings name
  exact ⟨output, List.mem_filter.mpr ⟨published, decide_eq_true sec⟩, same⟩

-- The gateway of a network of two zones takes the subnets of both.
theorem gateway_connects :
    ∃ network doc,
      Stack.vpc.build { addressing := { subnetBlocks := ["10.0.0.0/24", "10.0.1.0/24"] } } =
        .ok network ∧
      Stack.gateway.build { addressing := { subnetBlocks := ["10.0.0.0/24", "10.0.1.0/24"] } } =
        .ok doc ∧
      Zone.Family.subnetOutput.among .output network.declarations =
        ["vpcSubnetIdForAz1", "vpcSubnetIdForAz2"] ∧
      Zone.Family.subnetOutput.among .parameter doc.declarations =
        ["vpcSubnetIdForAz1", "vpcSubnetIdForAz2"] := by
  obtain ⟨network, built, subnets, clusters⟩ :=
    build_connects { addressing := { subnetBlocks := ["10.0.0.0/24", "10.0.1.0/24"] } }
  obtain ⟨doc, made, _, taken⟩ := clusters .gateway (by decide)
  exact ⟨network, doc, built, made, subnets, taken.trans subnets⟩

end Stack

end StackTemplate
