import StackTemplate.Proofs.Reordering
import StackTemplate.Proofs.Stack.Outcome

namespace StackTemplate

namespace Document

def Carries (doc : Document) (id : LogicalId) (sec : Section) (values : Entries Value) : Prop :=
  ∃ d, doc.find? id = some d ∧ d.sec = sec ∧
    ∀ entry ∈ values, d.attribute? entry.1 = some entry.2

theorem Sound.carries {doc : Document} (sound : doc.Sound) {d : Declaration}
    (member : d ∈ doc.declarations) {values : Entries Value}
    (held : ∀ entry ∈ values, d.attribute? entry.1 = some entry.2) :
    doc.Carries d.id d.sec values :=
  ⟨d, (find?_eq_some sound).mpr ⟨member, rfl⟩, rfl, held⟩

end Document

def ResolvedDocument.waits? (doc : ResolvedDocument) (id : LogicalId) : Option (List LogicalId) :=
  (doc.find? id).map (·.dependsOn)

namespace Declaration

-- Of the names in its values, a declaration waits for those that resources go by.
theorem namedResources_offered {doc : Document} (sound : doc.Sound) {d : Declaration}
    {uses : List Use} (named : d.valueEdges.map (·.target) = uses.map (·.target))
    (offered : uses ⊆ doc.declarations.map (·.offer)) :
    d.namedResources doc = (uses.filter (·.sec = .resource)).map (·.target) := by
  rw [namedResources, named, List.filter_map]
  refine congrArg (List.map Use.target) (List.filter_congr fun use member => ?_)
  obtain ⟨t, declared, rfl⟩ := List.mem_map.mp (offered member)
  have found := Document.sectionOf_eq sound declared
  exact decide_eq_decide.mpr (by rw [offer, found])

-- A resource that asks for nothing itself waits for the resources that its values refer to.
theorem waits_offered {doc : Document} (sound : doc.Sound) {d : Declaration}
    (member : d ∈ doc.declarations) (resource : d.sec = .resource) (modest : d.dependsOn = [])
    (uses : List Use) (named : d.valueEdges.map (·.target) = uses.map (·.target))
    (offered : uses ⊆ doc.declarations.map (·.offer)) (remarks : List Advisory) :
    (doc.image remarks).waits? d.id =
      some (extendListed [] ((uses.filter (·.sec = .resource)).map (·.target))) := by
  rw [ResolvedDocument.waits?, Document.image_find?,
    (Document.find?_eq_some sound).mpr ⟨member, rfl⟩, Option.map_some, Option.map_some,
    image_dependsOn doc resource, modest, namedResources_offered sound named offered]

end Declaration

namespace Vpc
open Zone

-- The wiring of a zone whose subnet has the block.
structure Zoned (doc : Document) (resolved : ResolvedDocument) (zone : Nat) (block : String) :
    Prop where
  name : doc.Carries (Family.zone.name zone) .parameter []
  block : doc.Carries (Family.block.name zone) .parameter [("Default", .string block)]
  subnet : doc.Carries (Family.subnet.name zone) .resource
    [("AvailabilityZone", .ref (Family.zone.name zone)),
      ("CidrBlock", .ref (Family.block.name zone)), ("VpcId", .ref "CerberusVpc")]
  subnetWaits : resolved.waits? (Family.subnet.name zone) = some [⟨"CerberusVpc"⟩]
  association : doc.Carries (Family.association.name zone) .resource
    [("RouteTableId", .ref "CerberusRouteTable"), ("SubnetId", .ref (Family.subnet.name zone))]
  associationWaits : resolved.waits? (Family.association.name zone) =
    some [⟨"CerberusRouteTable"⟩, Family.subnet.name zone]
  subnetOutput : doc.Carries (Family.subnetOutput.name zone) .output
    [("Value", .ref (Family.subnet.name zone))]
  blockOutput : doc.Carries (Family.blockOutput.name zone) .output
    [("Value", .ref (Family.block.name zone))]

def launch (settings : Settings) : Document :=
  (Document.new description).append (declarations settings)

def zoneParts (zone : Nat) : List Declaration :=
  zoneParameter zone :: subnetResources zone ++ [subnetOutput zone, blockOutput zone]

section
variable {settings : Settings}

theorem launch_sound : (launch settings).Sound := (complete settings).sound description

theorem resources_declared : resources settings.addressing.zones ⊆ declarations settings :=
  fun _ member => List.mem_append_left _ (List.mem_append_right _ member)

theorem subnetGroup_declared :
    subnetGroup settings.addressing.zones ∈ (launch settings).declarations := by
  refine resources_declared ?_
  simp [resources]

theorem network_offers :
    networkResources.map (·.offer) ⊆ (declarations settings).map (·.offer) := by
  refine List.map_subset _ fun d member => resources_declared ?_
  simp only [resources, List.mem_append, member, true_or]

theorem parameters_offer :
    (parameters settings).map (·.offer) ⊆ (declarations settings).map (·.offer) :=
  List.map_subset _ fun _ member => List.mem_append_left _ (List.mem_append_left _ member)

-- The first block belongs to zone one.
theorem block_declared {index : Nat} {block : String}
    (given : settings.addressing.subnetBlocks[index]? = some block) :
    Addressing.subnetParameter (index + 1) block ∈ (launch settings).declarations := by
  have numbered : (block, index) ∈ settings.addressing.subnetBlocks.zipIdx :=
    List.mk_mem_zipIdx_iff_getElem?.mpr given
  have made : Addressing.subnetParameter (index + 1) block ∈ settings.addressing.subnetParameters :=
    List.mem_map.mpr ⟨(block, index), numbered, rfl⟩
  refine (declarations_grown settings).added_mem ?_
  simp only [zoneDeclarations, List.mem_append]
  tauto

section
variable {zone : Nat} (member : zone ∈ settings.addressing.zones)
include member

theorem zoneParts_declared : zoneParts zone ⊆ (launch settings).declarations := by
  intro d part
  refine (declarations_grown settings).added_mem ?_
  simp only [zoneDeclarations, List.mem_append]
  rcases List.mem_append.mp part with first | output
  · rcases List.mem_cons.mp first with rfl | subnet
    · exact .inl (.inl (.inr (List.mem_map_of_mem member)))
    · exact .inl (.inr (List.mem_flatMap.mpr ⟨zone, member, subnet⟩))
  · rcases List.mem_pair.mp output with rfl | rfl
    · exact .inr (.inl (List.mem_map_of_mem member))
    · exact .inr (.inr (List.mem_map_of_mem member))

-- The tags and the parameters that a subnet refers to are nothing to wait for.
theorem subnet_waits (remarks : List Advisory) :
    ((launch settings).image remarks).waits? (Family.subnet.name zone) = some [network.vpc.id] := by
  refine Declaration.waits_offered launch_sound (zoneParts_declared member (.tail _ (.head _)))
    rfl rfl (parameterOffers zone ++ ⟨network.vpc.id, .resource⟩ :: tagOffers) rfl ?_ remarks
  refine List.append_subset.mpr ⟨?_, List.cons_subset.mpr ⟨?_, ?_⟩⟩
  · exact List.Subset.trans (parameters_offered settings member) parameters_offer
  · exact network_offers network_offered.1
  · exact List.Subset.trans (tags_offered settings) parameters_offer

theorem association_waits (remarks : List Advisory) :
    ((launch settings).image remarks).waits? (Family.association.name zone) =
      some [network.routeTable.id, Family.subnet.name zone] := by
  have apart : Zone.Apart network.routeTable.id := by decide +kernel
  have other : Family.subnet.name zone ≠ network.routeTable.id := (apart.ne .subnet zone).symm
  have both : extendListed [network.routeTable.id] [Family.subnet.name zone] =
      [network.routeTable.id, Family.subnet.name zone] := by simp [extendListed, other]
  rw [← both]
  refine Declaration.waits_offered launch_sound
    (zoneParts_declared member (.tail _ (.tail _ (.head _)))) rfl rfl
    [⟨network.routeTable.id, .resource⟩, ⟨Family.subnet.name zone, .resource⟩] rfl ?_ remarks
  refine List.cons_subset.mpr ⟨network_offers network_offered.2, List.cons_subset.mpr ⟨?_, ?_⟩⟩
  · exact List.mem_map_of_mem (f := (·.offer)) (zoneParts_declared member (.tail _ (.head _)))
  · exact List.nil_subset _

end

-- Everything that a zone is wired to, once its number and its block are known.
theorem zoned {index : Nat} {block : String}
    (given : settings.addressing.subnetBlocks[index]? = some block) :
    Zoned (launch settings) ((launch settings).image []) (index + 1) block := by
  obtain ⟨inside, _⟩ := List.getElem?_eq_some_iff.mp given
  have member : index + 1 ∈ settings.addressing.zones := Addressing.mem_zones.mpr ⟨by omega, inside⟩
  have parts := zoneParts_declared member
  have carries {d : Declaration} {values : Entries Value} (part : d ∈ zoneParts (index + 1))
      (held : ∀ entry ∈ values, d.attribute? entry.1 = some entry.2) :
      (launch settings).Carries d.id d.sec values := launch_sound.carries (parts part) held
  refine ⟨?_, ?_, ?_, subnet_waits member [], ?_, association_waits member [], ?_, ?_⟩
  · exact carries (.head _) nofun
  · refine launch_sound.carries (block_declared given) (List.forall_mem_singleton.mpr ?_)
    exact Declaration.parameter_default _ _ _
  · refine carries (.tail _ (.head _)) ?_
    simp only [List.forall_mem_cons]
    exact ⟨rfl, rfl, rfl, nofun⟩
  · refine carries (.tail _ (.tail _ (.head _))) ?_
    simp only [List.forall_mem_cons]
    exact ⟨rfl, rfl, nofun⟩
  · exact carries (.tail _ (.tail _ (.tail _ (.head _)))) (List.forall_mem_singleton.mpr rfl)
  · refine carries (.tail _ (.tail _ (.tail _ (.tail _ (.head _))))) ?_
    exact List.forall_mem_singleton.mpr rfl

theorem mem_zoneNames {zones : List Nat} {family : Zone.Family} {zone : Nat} :
    (family, zone) ∈ zoneNames zones ↔ zone ∈ zones := by
  cases family <;> simp [zoneNames]

theorem zoneNames_length (zones : List Nat) : (zoneNames zones).length = 6 * zones.length := by
  have pairs : (zones.flatMap fun zone =>
      [(Zone.Family.subnet, zone), (Zone.Family.association, zone)]).length = 2 * zones.length := by
    simp [List.length_flatMap, Nat.mul_comm]
  simp only [zoneNames, List.length_append, List.length_map, pairs]
  omega

theorem name_declared {family : Zone.Family} {zone : Nat} :
    family.name zone ∈ (declarations settings).map (·.id) ↔ zone ∈ settings.addressing.zones := by
  rw [(declarations_grown settings).ids.mem_iff, List.mem_append, zoneDeclarations_ids]
  constructor
  · rintro (old | new)
    · obtain ⟨d, member, same⟩ := List.mem_map.mp old
      exact absurd same ((checked.names d member).2.ne family zone)
    · obtain ⟨⟨other, number⟩, member, same⟩ := List.mem_map.mp new
      obtain ⟨rfl, rfl⟩ := Zone.Family.name_injective same
      exact mem_zoneNames.mp member
  · intro member
    exact .inr (List.mem_map.mpr ⟨(family, zone), mem_zoneNames.mpr member, rfl⟩)

theorem launch_size (settings : Settings) : (launch settings).size =
    (launch .unzoned).size + 6 * settings.addressing.subnetBlocks.length := by
  have lengths := (declarations_grown settings).ids.length_eq
  have zones : settings.addressing.zones.length = settings.addressing.subnetBlocks.length :=
    List.length_range'
  rw [List.length_append, zoneDeclarations_ids, List.length_map, List.length_map, List.length_map,
    zoneNames_length, zones] at lengths
  exact lengths

end

end Vpc

namespace Stack

-- The network is built with all its zones wired alike, its database spreads over their subnets in
-- order, and it holds six declarations for each of them and no other name of a zone.
theorem build_zoned (settings : Settings) :
    ∃ doc resolved, Stack.vpc.build settings = .ok doc ∧
      (∀ options, doc.resolve options = .ok resolved) ∧
      (∀ index block, settings.addressing.subnetBlocks[index]? = some block →
        Vpc.Zoned doc resolved (index + 1) block) ∧
      doc.Carries "CmsDatabaseSubnetGroup" .resource
        [("SubnetIds", .list ((List.range' 1 settings.addressing.subnetBlocks.length).map
          fun zone => .ref (Zone.Family.subnet.name zone)))] ∧
      (∀ (family : Zone.Family) (zone : Nat), family.name zone ∈ doc.ids ↔
        1 ≤ zone ∧ zone ≤ settings.addressing.subnetBlocks.length) ∧
      ∃ bare, Stack.vpc.build
          { settings with addressing := { settings.addressing with subnetBlocks := [] } } =
            .ok bare ∧
        doc.size = bare.size + 6 * settings.addressing.subnetBlocks.length := by
  refine ⟨Vpc.launch settings, (Vpc.launch settings).image [], Stack.vpc.build_eq settings,
    (Vpc.complete settings).resolve Vpc.description, fun _ _ => Vpc.zoned, ?_, ?_,
    Vpc.launch _, Stack.vpc.build_eq _, ?_⟩
  · exact Vpc.launch_sound.carries Vpc.subnetGroup_declared (List.forall_mem_singleton.mpr rfl)
  · exact fun family zone => Vpc.name_declared.trans Addressing.mem_zones
  · rw [Vpc.launch_size settings, Vpc.launch_size { settings with
      addressing := { settings.addressing with subnetBlocks := [] } },
      List.length_nil, Nat.mul_zero, Nat.add_zero]

theorem paired_zoned :
    ∃ doc resolved,
      Stack.vpc.build { addressing := { subnetBlocks := ["10.0.0.0/24", "10.0.1.0/24"] } } =
        .ok doc ∧
      doc.resolve ⟨.deny, .deny⟩ = .ok resolved ∧
      Vpc.Zoned doc resolved 2 "10.0.1.0/24" ∧
      doc.Carries "CmsDatabaseSubnetGroup" .resource
        [("SubnetIds", .list [.ref "CerberusSubnetForAz1", .ref "CerberusSubnetForAz2"])] ∧
      ⟨"az2"⟩ ∈ doc.ids ∧ ⟨"az0"⟩ ∉ doc.ids ∧ ⟨"az3"⟩ ∉ doc.ids := by
  obtain ⟨doc, resolved, built, resolves, zoned, spread, names, _⟩ :=
    build_zoned { addressing := { subnetBlocks := ["10.0.0.0/24", "10.0.1.0/24"] } }
  refine ⟨doc, resolved, built, resolves _, zoned 1 _ rfl, spread, ?_, ?_, ?_⟩
  · exact (names .zone 2).mpr (by decide)
  · exact fun declared => absurd ((names .zone 0).mp declared) (by decide)
  · exact fun declared => absurd ((names .zone 3).mp declared) (by decide)

end Stack

end StackTemplate
