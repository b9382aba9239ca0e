import Mathlib.Data.List.Perm.Basic
import StackTemplate.Proofs.Stack.Network

namespace StackTemplate.Vpc

def zoneEdges (zones : List Nat) : List Edge :=
  (zones.flatMap subnetResources ++ zones.map subnetOutput
    ++ zones.map blockOutput).flatMap (·.edges)

def tagOffers : List Use :=
  [⟨Tagging.nameId, .parameter⟩, ⟨Tagging.emailId, .parameter⟩,
    ⟨Tagging.classificationId, .parameter⟩, ⟨Tagging.costcenterId, .parameter⟩]

def parameterOffers (zone : Nat) : List Use :=
  [⟨Zone.Family.zone.name zone, .parameter⟩, ⟨Zone.Family.block.name zone, .parameter⟩]

theorem subnet_backed {known : List Use} {zone : Nat} (vpc : ⟨network.vpc.id, .resource⟩ ∈ known)
    (routes : ⟨network.routeTable.id, .resource⟩ ∈ known) (tags : tagOffers ⊆ known)
    (parameters : parameterOffers zone ⊆ known) : Backed known (subnetResources zone) := by
  refine ⟨.references rfl rfl nofun
      (parameterOffers zone ++ ⟨network.vpc.id, .resource⟩ :: tagOffers) rfl ?_ ?_,
    .references rfl rfl nofun
      [⟨network.routeTable.id, .resource⟩, ⟨Zone.Family.subnet.name zone, .resource⟩] rfl ?_ ?_,
    trivial⟩
  · simp [parameterOffers, tagOffers, ReferenceKind.allowed]
  · exact List.append_subset.mpr ⟨parameters, List.cons_subset.mpr ⟨vpc, tags⟩⟩
  · simp [ReferenceKind.allowed]
  · simp [routes, Declaration.offer, Declaration.resource]

theorem subnet_offered (zone : Nat) :
    ∃ subnet ∈ subnetResources zone, subnet.offer = ⟨Zone.Family.subnet.name zone, .resource⟩ :=
  ⟨_, .head _, rfl⟩

theorem subnetOutput_backed {known : List Use} {zone : Nat}
    (subnet : ⟨Zone.Family.subnet.name zone, .resource⟩ ∈ known) : (subnetOutput zone).Backed known :=
  .references rfl rfl nofun [⟨Zone.Family.subnet.name zone, .resource⟩] rfl
    (by simp [ReferenceKind.allowed]) (by simpa using subnet)

theorem blockOutput_backed {known : List Use} {zone : Nat}
    (block : ⟨Zone.Family.block.name zone, .parameter⟩ ∈ known) :
    (blockOutput zone).Backed known :=
  .references rfl rfl nofun [⟨Zone.Family.block.name zone, .parameter⟩] rfl
    (by simp [ReferenceKind.allowed]) (by simpa using block)

section
variable (settings : Settings) (zones : List Nat)

theorem blockSpec_literal (description block : String) :
    (Addressing.blockSpec description block).Literal :=
  ((((ParameterSpec.description_literal description).set _ ⟨rfl, rfl⟩).set _ ⟨rfl, rfl⟩).set _
    ⟨rfl, rfl⟩).set _ ⟨rfl, rfl⟩

theorem zoneSpec_literal (description pattern : String) :
    ((ParameterSpec.string.description description).allowedPattern pattern).Literal :=
  (ParameterSpec.description_literal description).set _ ⟨rfl, rfl⟩

theorem addressing_grown (extra : List Edge) (known : List Use) :
    Grown extra known (settings.addressing.subnetParameters) (Settings.unzoned.addressing.parameters)
      settings.addressing.parameters := by
  refine (Grown.widened (.cons (.refl _) (.cons ?_ (.cons ?_ .nil)))).literals ?_
  · exact .parameter _ (blockSpec_literal _ _) (blockSpec_literal _ _)
  · exact .parameter _ (blockSpec_literal _ _) (blockSpec_literal _ _)
  · refine List.forall_mem_map.mpr fun (block, zone) _ => ?_
    exact ⟨_, _, rfl, blockSpec_literal _ _⟩

theorem parameters_grown (extra : List Edge) :
    Grown extra [] (settings.addressing.subnetParameters ++ settings.addressing.zones.map zoneParameter)
      (parameters .unzoned) (parameters settings) := by
  have tags := settings.tagging.parameters_grown extra
  have shared := (tags.append (addressing_grown settings extra _)).followed
    [.parameter "accountAdminArn" (ParameterSpec.string.description
      "The ARN for a IAM user, group or role that can create this stack.")]
  refine ((shared.literals ?_).followed _).followed _
  exact List.forall_mem_map.mpr fun zone _ => ⟨_, _, rfl, zoneSpec_literal _ _⟩

variable {zones} in
theorem mem_zoneEdges {d : Declaration} {edge : Edge} (named : edge ∈ d.edges)
    (member : d ∈ zones.flatMap subnetResources ++ zones.map subnetOutput
      ++ zones.map blockOutput) :
    edge ∈ zoneEdges zones := List.mem_flatMap.mpr ⟨d, member, named⟩

theorem network_offered : ⟨network.vpc.id, .resource⟩ ∈ networkResources.map (·.offer) ∧
    ⟨network.routeTable.id, .resource⟩ ∈ networkResources.map (·.offer) := by
  decide +kernel

theorem resources_grown {known : List Use} (tags : tagOffers ⊆ known)
    (given : ∀ zone ∈ zones, parameterOffers zone ⊆ known) :
    Grown (zoneEdges zones) known (zones.flatMap subnetResources) (resources [])
      (resources zones) := by
  have alone : Grown (zoneEdges zones) known [] networkResources networkResources :=
    (Grown.done known).followed networkResources
  have backed : Backed (networkResources.map (·.offer) ++ known)
      (zones.flatMap subnetResources) := by
    refine .each fun zone member => subnet_backed ?_ ?_ ?_ ?_
    · exact List.mem_append_left _ network_offered.1
    · exact List.mem_append_left _ network_offered.2
    · exact List.subset_append_of_subset_right _ tags
    · exact List.subset_append_of_subset_right _ (given zone member)
  have subnets := alone.inserting backed fun d member edge named =>
    mem_zoneEdges named (List.mem_append_left _ (List.mem_append_left _ member))
  have shared := subnets.followed sharedResources
  refine (shared.widening (.cons ?_ .nil)).followed lastResources
  refine .references rfl [("DBSubnetGroupDescription", "DB Subnet Group for management DB")] [] _
    rfl rfl fun zone member => ⟨?_, .resource, by simp [ReferenceKind.allowed], ?_⟩
  · refine mem_zoneEdges (d := subnetOutput zone) (.head _) ?_
    exact List.mem_append_left _ (List.mem_append_right _ (List.mem_map_of_mem member))
  · obtain ⟨subnet, inside, offer⟩ := subnet_offered zone
    rw [← offer]
    exact List.mem_append_left _ (List.mem_map_of_mem
      (shared.added_mem (List.mem_flatMap.mpr ⟨zone, member, inside⟩)))

theorem outputs_grown {known : List Use}
    (subnets : ∀ zone ∈ zones, ⟨Zone.Family.subnet.name zone, .resource⟩ ∈ known)
    (blocks : ∀ zone ∈ zones, ⟨Zone.Family.block.name zone, .parameter⟩ ∈ known) :
    Grown (zoneEdges zones) known (zones.map subnetOutput ++ zones.map blockOutput) (outputs [])
      (outputs zones) := by
  have shared : Grown (zoneEdges zones) known [] sharedOutputs sharedOutputs :=
    (Grown.done known).followed sharedOutputs
  refine ((shared.inserting ?_ ?_).followed _).inserting ?_ ?_
  · refine .all (List.forall_mem_map.mpr fun zone member => subnetOutput_backed ?_)
    exact List.mem_append_right _ (subnets zone member)
  · exact fun d member edge named =>
      mem_zoneEdges named (List.mem_append_left _ (List.mem_append_right _ member))
  · refine .all (List.forall_mem_map.mpr fun zone member => blockOutput_backed ?_)
    exact List.mem_append_right _ (blocks zone member)
  · exact fun d member edge named => mem_zoneEdges named (List.mem_append_right _ member)

theorem blocks_offered : settings.addressing.subnetParameters.map (·.offer) =
    settings.addressing.zones.map fun zone => ⟨Zone.Family.block.name zone, .parameter⟩ := by
  rw [Addressing.subnetParameters, List.map_map]
  exact Addressing.blocks_numbered settings.addressing.subnetBlocks
    fun zone => (⟨Zone.Family.block.name zone, .parameter⟩ : Use)

def zoneDeclarations : List Declaration :=
  settings.addressing.subnetParameters ++ settings.addressing.zones.map zoneParameter
  ++ settings.addressing.zones.flatMap subnetResources
  ++ (settings.addressing.zones.map subnetOutput ++ settings.addressing.zones.map blockOutput)

theorem tags_offered : tagOffers ⊆ (parameters settings).map (·.offer) := by
  have first : tagOffers = settings.tagging.parameters.map (·.offer) := rfl
  simp [first, parameters]

theorem parameters_offered {zone : Nat} (member : zone ∈ settings.addressing.zones) :
    parameterOffers zone ⊆ (parameters settings).map (·.offer) := by
  have named := parameters_grown settings []
  have block : (⟨Zone.Family.block.name zone, .parameter⟩ : Use) ∈
      (settings.addressing.subnetParameters).map (·.offer) := by
    rw [blocks_offered]
    exact List.mem_map_of_mem member
  obtain ⟨d, inside, offer⟩ := List.mem_map.mp block
  refine List.cons_subset.mpr ⟨?_, List.cons_subset.mpr ⟨?_, List.nil_subset _⟩⟩
  · exact List.mem_map_of_mem
      (named.added_mem (List.mem_append_right _ (List.mem_map_of_mem member)))
  · rw [← offer]
    exact List.mem_map_of_mem (named.added_mem (List.mem_append_left _ inside))

theorem declarations_grown : Grown (zoneEdges settings.addressing.zones) []
    (zoneDeclarations settings) (declarations .unzoned) (declarations settings) := by
  have named := parameters_grown settings (zoneEdges settings.addressing.zones)
  have made : Grown (zoneEdges settings.addressing.zones) ((parameters settings).map (·.offer) ++ [])
      (settings.addressing.zones.flatMap subnetResources) (resources [])
      (resources settings.addressing.zones) := by
    rw [List.append_nil]
    exact resources_grown settings.addressing.zones (tags_offered settings)
      fun _ => parameters_offered settings
  refine (named.append made).append (outputs_grown settings.addressing.zones ?_ ?_)
  · intro zone member
    obtain ⟨subnet, inside, offer⟩ := subnet_offered zone
    have declared := made.added_mem (List.mem_flatMap.mpr ⟨zone, member, inside⟩)
    rw [List.append_nil, ← offer]
    exact List.mem_map_of_mem (List.mem_append_right _ declared)
  · intro zone member
    have offered := parameters_offered settings member (List.mem_cons_of_mem _ (List.mem_cons_self))
    rw [List.append_nil, List.map_append]
    exact List.mem_append_left _ offered

-- Which zone and which family a name put in belongs to.
def zoneNames (zones : List Nat) : List (Zone.Family × Nat) :=
  zones.map (.block, ·) ++ zones.map (.zone, ·)
  ++ zones.flatMap (fun zone => [(.subnet, zone), (.association, zone)])
  ++ (zones.map (.subnetOutput, ·) ++ zones.map (.blockOutput, ·))

theorem zoneDeclarations_ids : (zoneDeclarations settings).map (·.id) =
    (zoneNames settings.addressing.zones).map fun (family, zone) => family.name zone := by
  simp only [zoneDeclarations, zoneNames, List.map_append, Addressing.subnetParameters_ids, List.map_map,
    List.map_flatMap]
  rfl

theorem zoneNames_distinct {zones : List Nat} (distinct : zones.Nodup) :
    (zoneNames zones).Nodup := by
  have subnets : (zones.flatMap fun zone =>
      [(Zone.Family.subnet, zone), (Zone.Family.association, zone)]).Perm
      (zones.map (Zone.Family.subnet, ·) ++ zones.map (Zone.Family.association, ·)) := by
    have pairs := List.map_append_flatMap_perm zones (Zone.Family.subnet, ·)
      fun zone => [(Zone.Family.association, zone)]
    rw [← List.map_eq_flatMap] at pairs
    exact pairs.symm
  -- Taken family by family, the names are all pairs of a family and a zone.
  have families : (zoneNames zones).Perm (List.product
      [.block, .zone, .subnet, .association, .subnetOutput, .blockOutput] zones) := by
    have outputs := subnets.append_right
      (zones.map (Zone.Family.subnetOutput, ·) ++ zones.map (Zone.Family.blockOutput, ·))
    simp only [List.append_assoc] at outputs
    simp only [zoneNames, List.product, List.flatMap_cons, List.flatMap_nil, List.append_nil,
      List.append_assoc]
    exact (outputs.append_left _).append_left _
  exact families.nodup_iff.mpr (List.Nodup.product (by decide) distinct)

-- A declaration of a zone is one of its two parameters, or nothing that lint asks for.
theorem zoneDeclarations_parameter {d : Declaration} (member : d ∈ zoneDeclarations settings) :
    (∃ zone ∈ settings.addressing.zones, d.offer ∈ parameterOffers zone) ∨
      d.sec = .resource ∨ d.sec = .output := by
  simp only [zoneDeclarations, List.mem_append] at member
  rcases member with ((block | named) | subnet) | output | output
  · have offered := List.mem_map_of_mem (f := (·.offer)) block
    rw [blocks_offered] at offered
    obtain ⟨zone, inside, same⟩ := List.mem_map.mp offered
    exact .inl ⟨zone, inside, by simp [parameterOffers, ← same]⟩
  · obtain ⟨zone, inside, rfl⟩ := List.mem_map.mp named
    exact .inl ⟨zone, inside, .head _⟩
  · obtain ⟨zone, _, made⟩ := List.mem_flatMap.mp subnet
    rcases List.mem_pair.mp made with rfl | rfl <;> exact .inr (.inl rfl)
  · obtain ⟨zone, _, rfl⟩ := List.mem_map.mp output
    exact .inr (.inr rfl)
  · obtain ⟨zone, _, rfl⟩ := List.mem_map.mp output
    exact .inr (.inr rfl)

-- The subnet of a zone uses both of its parameters.
theorem parameters_used {zone : Nat} (member : zone ∈ settings.addressing.zones) {use : Use}
    (offered : use ∈ parameterOffers zone) :
    use.target ∈ (declarations settings).flatMap (·.used) := by
  have subnet : ∃ subnet ∈ subnetResources zone, use.target ∈ subnet.used := by
    refine ⟨_, .head _, ?_⟩
    rcases List.mem_pair.mp offered with rfl | rfl
    · exact .head _
    · exact .tail _ (.head _)
  obtain ⟨subnet, inside, used⟩ := subnet
  have declared := (declarations_grown settings).added_mem (List.mem_append_left _
    (List.mem_append_right _ (List.mem_flatMap.mpr ⟨zone, member, inside⟩)))
  exact List.mem_flatMap.mpr ⟨subnet, declared, used⟩

theorem checked : Checked [] (declarations .unzoned) := by decide +kernel

theorem complete : Complete [] (declarations settings) := by
  refine (declarations_grown settings).complete checked ?_ ?_ ?_ ?_ (by simp)
  · intro d member
    have named := List.mem_map_of_mem (f := (·.id)) member
    rw [zoneDeclarations_ids] at named
    obtain ⟨⟨family, zone⟩, _, same⟩ := List.mem_map.mp named
    exact ⟨family, zone, same.symm⟩
  · rw [zoneDeclarations_ids]
    refine (zoneNames_distinct settings.addressing.zones_distinct).map ?_
    rintro ⟨one, i⟩ ⟨other, j⟩ same
    obtain ⟨rfl, rfl⟩ := Zone.Family.name_injective same
    rfl
  · intro d member parameter
    rcases zoneDeclarations_parameter settings member with ⟨zone, inside, offered⟩ | sec | sec
    · exact parameters_used settings inside offered
    · cases parameter.symm.trans sec
    · cases parameter.symm.trans sec
  · intro d member condition
    rcases zoneDeclarations_parameter settings member with ⟨zone, _, offered⟩ | sec | sec
    · have parameter : d.sec = .parameter := by
        rcases List.mem_pair.mp offered with same | same <;> exact congrArg Use.sec same
      cases condition.symm.trans parameter
    · cases condition.symm.trans sec
    · cases condition.symm.trans sec

end

end StackTemplate.Vpc
