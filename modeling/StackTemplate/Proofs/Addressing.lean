import StackTemplate.Proofs.Growth
import StackTemplate.Proofs.Turn

namespace StackTemplate

-- Where nothing bars a declaration of a batch, none of its names is held.
theorem Clear.fresh {held batch : List Declaration} (clear : Clear held batch) {d : Declaration}
    (member : d ∈ batch) : d.id ∉ held.map (·.id) := by
  intro taken
  obtain ⟨before, rest, split⟩ := List.append_of_mem member
  obtain ⟨holder, inside, same⟩ := List.mem_map.mp taken
  by_cases proper : d.id.Proper
  · exact clear before d rest split _
      (.taken proper holder (List.mem_append_left before inside) same)
  · exact clear before d rest split _ (.malformed proper)

namespace Document

-- The first of the names that the document has given is the error, with the section of its holder.
def FirstTaken (doc : Document) (names : List LogicalId) (e : DocumentError) : Prop :=
  ∃ before name rest holder, names = before ++ name :: rest ∧ (∀ other ∈ before, other ∉ doc.ids) ∧
    holder ∈ doc.declarations ∧ holder.id = name ∧ e = .duplicateId name holder.sec

section
variable {doc : Document} {batch : List Declaration} (proper : ∀ d ∈ batch, d.id.isValid = true)
  (distinct : (batch.map (·.id)).Nodup)
include proper distinct

-- The members before the first that is barred are no reason to bar it: their names are others.
theorem refusal_taken {e : DocumentError} (refused : refusal? doc.declarations batch = some e) :
    doc.FirstTaken (batch.map (·.id)) e := by
  obtain ⟨before, d, rest, rfl, clear, barred⟩ := refusal?_some refused
  rw [List.map_append, List.map_cons] at distinct ⊢
  cases barred with
  | malformed improper =>
    have valid := proper d (List.mem_append_right _ List.mem_cons_self)
    exact absurd (LogicalId.isValid_iff.mp valid) improper
  | taken _ holder member same =>
    refine ⟨before.map (·.id), d.id, rest.map (·.id), holder, rfl, ?_, ?_, same, rfl⟩
    · exact List.forall_mem_map.mpr fun other earlier => clear.fresh earlier
    · cases List.mem_append.mp member with
      | inl declared => exact declared
      | inr earlier =>
        have apart := (List.nodup_append.mp distinct).2.2 holder.id (List.mem_map_of_mem earlier)
        exact absurd same (apart d.id List.mem_cons_self)

theorem refusal_none_iff :
    refusal? doc.declarations batch = none ↔ ∀ name ∈ batch.map (·.id), name ∉ doc.ids := by
  constructor
  · intro accepted
    exact List.forall_mem_map.mpr fun d member => (refusal?_none accepted).fresh member
  · intro free
    cases outcome : refusal? doc.declarations batch with
    | none => rfl
    | some e =>
      obtain ⟨before, name, rest, holder, split, _, member, rfl, _⟩ :=
        refusal_taken proper distinct outcome
      have listed : holder.id ∈ batch.map (·.id) := by simp [split]
      exact absurd (List.mem_map_of_mem member) (free _ listed)

end

end Document

namespace Addressing

def names (addressing : Addressing) : List LogicalId :=
  [domainSuffixId, gatewayBlockId, vpcBlockId] ++ addressing.zones.map subnetBlockId

def outputNames (addressing : Addressing) : List LogicalId := addressing.zones.map subnetOutputId

def defaults (addressing : Addressing) : List String :=
  ["compute.internal", addressing.gatewayBlock, addressing.vpcBlock] ++ addressing.subnetBlocks

-- What a network is known by once its parameters are in a document.
def handles (addressing : Addressing) : AddressingHandles where
  domainSuffix := domainSuffixId
  gatewayBlock := gatewayBlockId
  vpcBlock := vpcBlockId
  subnetBlocks := addressing.zones.map subnetBlockId

theorem subnetBlockId_apart (zone : Nat) :
    subnetBlockId zone ∉ [domainSuffixId, gatewayBlockId, vpcBlockId] := by
  have apart : ∀ id ∈ [domainSuffixId, gatewayBlockId, vpcBlockId], Zone.Apart id := by
    decide +kernel
  intro member
  exact (apart _ member).ne .block zone rfl

theorem subnetBlockId_injective {zone other : Nat} (same : subnetBlockId zone = subnetBlockId other) :
    zone = other := by
  have names : Zone.Family.block.name zone = Zone.Family.block.name other := same
  exact (Zone.Family.name_injective names).2

theorem subnetBlockId_ne_output (zone other : Nat) : subnetBlockId zone ≠ subnetOutputId other := by
  intro same
  have names : Zone.Family.block.name zone = Zone.Family.blockOutput.name other := same
  cases (Zone.Family.name_injective names).1

-- Places are counted from zero and zones from one.
theorem numbered {α β : Type} (n : Nat) (name : Nat → α) (f : α → Nat → β) :
    (((List.range' 1 n).map name).zipIdx.map fun (a, index) => f a (index + 1)) =
      (List.range' 1 n).map fun zone => f (name zone) zone := by
  refine List.ext_getElem (by simp) fun index _ _ => ?_
  simp [Nat.add_comm 1 index]

theorem blocks_numbered {β : Type} (blocks : List String) (f : Nat → β) :
    (blocks.zipIdx.map fun (_, index) => f (index + 1)) = (List.range' 1 blocks.length).map f := by
  refine List.ext_getElem (by simp) fun index _ _ => ?_
  simp [Nat.add_comm 1 index]

def subnetParameters (addressing : Addressing) : List Declaration :=
  addressing.subnetBlocks.zipIdx.map fun (block, index) => subnetParameter (index + 1) block

theorem subnetParameters_ids (addressing : Addressing) :
    addressing.subnetParameters.map (·.id) = addressing.zones.map subnetBlockId := by
  rw [subnetParameters, List.map_map]
  exact blocks_numbered addressing.subnetBlocks subnetBlockId

theorem parameters_names (addressing : Addressing) :
    addressing.parameters.map (·.id) = addressing.names := by
  rw [parameters, List.map_append]
  exact congrArg _ addressing.subnetParameters_ids

theorem parameters_defaults (addressing : Addressing) :
    addressing.parameters.map (·.attribute? "Default") =
      addressing.defaults.map fun text => some (.string text) := by
  have block : (fun pair : String × Nat =>
      (subnetParameter (pair.2 + 1) pair.1).attribute? "Default") =
      (fun text : String => some (Value.string text)) ∘ Prod.fst := by
    funext pair
    exact Declaration.parameter_default _ _ _
  have blocks : addressing.subnetBlocks.zipIdx.map (fun pair =>
      (subnetParameter (pair.2 + 1) pair.1).attribute? "Default") =
      addressing.subnetBlocks.map fun text => some (.string text) := by
    rw [block, ← List.map_map, List.zipIdx_map_fst]
  rw [parameters, defaults, List.map_append, List.map_append, List.map_map]
  exact congrArg _ blocks

theorem parameters_sec (addressing : Addressing) :
    ∀ d ∈ addressing.parameters, d.sec = .parameter := by
  intro d member
  cases List.mem_append.mp member with
  | inl own =>
    simp only [List.mem_cons, List.not_mem_nil, or_false] at own
    obtain rfl | rfl | rfl := own <;> rfl
  | inr block =>
    obtain ⟨⟨text, zone⟩, _, rfl⟩ := List.mem_map.mp block
    rfl

theorem names_valid (addressing : Addressing) :
    ∀ d ∈ addressing.parameters, d.id.isValid = true := by
  intro d member
  have named : d.id ∈ addressing.names := by
    rw [← addressing.parameters_names]
    exact List.mem_map_of_mem member
  cases List.mem_append.mp named with
  | inl own =>
    have valid : ∀ id ∈ [domainSuffixId, gatewayBlockId, vpcBlockId], id.isValid = true := by
      decide +kernel
    exact valid d.id own
  | inr block =>
    obtain ⟨zone, _, same⟩ := List.mem_map.mp block
    rw [← same]
    exact Zone.Family.block.name_valid zone

theorem names_distinct (addressing : Addressing) : addressing.names.Nodup := by
  rw [names, List.nodup_append]
  refine ⟨by decide +kernel, Zone.Family.block.names_distinct addressing.zones_distinct, ?_⟩
  intro own inside other block same
  obtain ⟨zone, _, named⟩ := List.mem_map.mp block
  apply subnetBlockId_apart zone
  rw [named, ← same]
  exact inside

theorem registerInto_on (addressing : Addressing) (doc : Document) :
    addressing.registerInto.on doc = doc.outcome (refusal? doc.declarations addressing.parameters)
      (doc.append addressing.parameters) addressing.handles := by
  have blocks : (addressing.parameters.map (·.id)).drop 3 = addressing.zones.map subnetBlockId :=
    congrArg (List.drop 3) addressing.parameters_names
  rw [handles, ← blocks]
  exact Drafting.on_then (Document.registerAll_on doc addressing.parameters) rfl

theorem outputs_eq (addressing : Addressing) :
    addressing.handles.outputs =
      addressing.zones.map fun zone => subnetOutput zone (subnetBlockId zone) :=
  numbered addressing.zoneCount subnetBlockId fun id zone => subnetOutput zone id

theorem numberedBlocks_eq (addressing : Addressing) :
    addressing.handles.numberedBlocks =
      addressing.zones.map fun zone => (zone, .ref (subnetBlockId zone)) :=
  numbered addressing.zoneCount subnetBlockId fun id zone => (zone, Value.ref id)

theorem handles_zones (addressing : Addressing) : addressing.handles.zones = addressing.zones := by
  simp [AddressingHandles.zones, handles, zones]

theorem handles_subnetBlock? (addressing : Addressing) (zone : Nat) :
    addressing.handles.subnetBlock? zone =
      if 1 ≤ zone ∧ zone ≤ addressing.zoneCount then some (.ref (subnetBlockId zone)) else none := by
  cases zone with
  | zero => rfl
  | succ index =>
    rw [AddressingHandles.subnetBlock?, handles, List.getElem?_map, zones]
    by_cases inside : index < addressing.zoneCount
    · rw [List.getElem?_range' inside, if_pos ⟨Nat.le_add_left 1 index, inside⟩, Nat.one_mul,
        Nat.add_comm 1 index]
      rfl
    · have beyond : (List.range' 1 addressing.zoneCount)[index]? = none := by simpa using inside
      rw [beyond, if_neg fun bounds => inside bounds.2]
      rfl

-- What is in the document once the parameters have entered it, and what its handles say.
structure Enters (addressing : Addressing) (doc next : Document) (handles : AddressingHandles) :
    Prop where
  appended : ∃ added, next = doc.append added ∧ added.map (·.id) = addressing.names ∧
    (∀ d ∈ added, d.sec = .parameter) ∧
    added.map (·.attribute? "Default") = addressing.defaults.map fun text => some (.string text)
  zones : handles.zones = List.range' 1 addressing.zoneCount
  numbered : handles.numberedBlocks =
    addressing.zones.map fun zone => (zone, .ref (subnetBlockId zone))
  blocks : ∀ zone, handles.subnetBlock? zone =
    if 1 ≤ zone ∧ zone ≤ addressing.zoneCount then some (.ref (subnetBlockId zone)) else none

-- The outputs follow right after the parameters unless one of their names was given before either.
structure Publishes (addressing : Addressing) (doc next : Document) (handles : AddressingHandles) :
    Prop where
  free : (∃ last, handles.registerOutputs.on next = (.ok (), last)) ↔
    ∀ name ∈ addressing.outputNames, name ∉ doc.ids
  taken : ∀ e last, handles.registerOutputs.on next = (.error e, last) →
    next.FirstTaken addressing.outputNames e ∧ last = next
  appended : ∀ last, handles.registerOutputs.on next = (.ok (), last) →
    ∃ added, last = next.append added ∧ added.map (·.id) = addressing.outputNames ∧
      (∀ d ∈ added, d.sec = .output) ∧
      added.map (·.attribute? "Value") =
        addressing.zones.map fun zone => some (.ref (subnetBlockId zone))

theorem enters (addressing : Addressing) (doc : Document) :
    addressing.Enters doc (doc.append addressing.parameters) addressing.handles where
  appended := ⟨addressing.parameters, rfl, addressing.parameters_names, addressing.parameters_sec,
    addressing.parameters_defaults⟩
  zones := addressing.handles_zones
  numbered := addressing.numberedBlocks_eq
  blocks := addressing.handles_subnetBlock?

-- The parameters are no reason to refuse an output: none of them goes by its name.
theorem outputNames_free (addressing : Addressing) (doc : Document) :
    (∀ name ∈ addressing.outputNames, name ∉ (doc.append addressing.parameters).ids) ↔
      ∀ name ∈ addressing.outputNames, name ∉ doc.ids := by
  rw [Document.ids_append, parameters_names]
  refine forall₂_congr fun name member => ?_
  obtain ⟨zone, _, rfl⟩ := List.mem_map.mp member
  have own : ∀ id ∈ [domainSuffixId, gatewayBlockId, vpcBlockId], Zone.Apart id := by
    decide +kernel
  have apart : subnetOutputId zone ∉ addressing.names := by
    intro inside
    cases List.mem_append.mp inside with
    | inl listed => exact (own _ listed).ne .blockOutput zone rfl
    | inr block =>
      obtain ⟨other, _, same⟩ := List.mem_map.mp block
      exact subnetBlockId_ne_output other zone same
  simp [apart]

theorem publishes (addressing : Addressing) (doc : Document) :
    addressing.Publishes doc (doc.append addressing.parameters) addressing.handles := by
  have names : addressing.handles.outputs.map (·.id) = addressing.outputNames := by
    rw [outputs_eq, List.map_map]
    rfl
  have proper : ∀ d ∈ addressing.handles.outputs, d.id.isValid = true := by
    rw [outputs_eq]
    exact List.forall_mem_map.mpr fun zone _ => Zone.Family.blockOutput.name_valid zone
  have distinct : (addressing.handles.outputs.map (·.id)).Nodup := by
    rw [names]
    exact Zone.Family.blockOutput.names_distinct addressing.zones_distinct
  refine ⟨?_, ?_, ?_⟩
  · simp only [Document.outputs_on, Document.outcome_ok, and_true, exists_and_left, exists_eq']
    rw [Document.refusal_none_iff proper distinct, names, outputNames_free]
  · intro e last refused
    rw [Document.outputs_on, Document.outcome_error] at refused
    rw [← names]
    exact ⟨Document.refusal_taken proper distinct refused.1, refused.2.symm⟩
  · intro last entered
    rw [Document.outputs_on, Document.outcome_ok] at entered
    refine ⟨addressing.handles.outputs, entered.2.1.symm, names, ?_, ?_⟩
    · rw [outputs_eq]
      exact List.forall_mem_map.mpr fun _ _ => rfl
    · rw [outputs_eq, List.map_map]
      rfl

-- A network enters every document that has given none of its names, and is otherwise refused for the
-- first name that is taken and leaves all as it was. Its handles lead from each zone to the
-- parameter of that zone, and the outputs that they publish refer to it; no two zones and nothing
-- else share a name.
theorem registerInto_zones (addressing : Addressing) (doc : Document) :
    ((∃ next handles, addressing.registerInto.on doc = (.ok handles, next)) ↔
      ∀ name ∈ addressing.names, name ∉ doc.ids) ∧
    (∀ e next, addressing.registerInto.on doc = (.error e, next) →
      doc.FirstTaken addressing.names e ∧ next = doc) ∧
    (∀ next handles, addressing.registerInto.on doc = (.ok handles, next) →
      addressing.Enters doc next handles ∧ addressing.Publishes doc next handles) ∧
    ∀ zone, subnetBlockId zone ∉ [domainSuffixId, gatewayBlockId, vpcBlockId] ∧
      ∀ other, (subnetBlockId zone = subnetBlockId other → zone = other) ∧
        subnetBlockId zone ≠ subnetOutputId other := by
  have distinct : (addressing.parameters.map (·.id)).Nodup := by
    rw [parameters_names]
    exact addressing.names_distinct
  refine ⟨?_, ?_, ?_, ?_⟩
  · simp only [registerInto_on, Document.outcome_ok, exists_and_left, exists_eq', and_true]
    rw [Document.refusal_none_iff addressing.names_valid distinct, parameters_names]
  · intro e next refused
    rw [registerInto_on, Document.outcome_error] at refused
    rw [← parameters_names]
    exact ⟨Document.refusal_taken addressing.names_valid distinct refused.1, refused.2.symm⟩
  · intro next handles entered
    rw [registerInto_on, Document.outcome_ok] at entered
    obtain ⟨_, rfl, rfl⟩ := entered
    exact ⟨addressing.enters doc, addressing.publishes doc⟩
  · intro zone
    exact ⟨subnetBlockId_apart zone, fun other =>
      ⟨subnetBlockId_injective, subnetBlockId_ne_output zone other⟩⟩

def paired : Addressing := { subnetBlocks := ["10.0.0.0/24", "10.0.1.0/24"] }

-- A document in which the second zone's name and the gateway's are taken, in this order.
def occupied : Document := .run (.new "test")
  [.add (.parameter "subnetCidrBlockForAz2" .string), .add (.output "gatewayCidrBlock" "x")]

-- A document that publishes something else under the name of an output.
def announced : Document := .run (.new "test") [.add (.output "vpcSubnetCidrBlockForAz2" "x")]

theorem paired_registered :
    (∃ next handles last, paired.registerInto.on (.new "test") = (.ok handles, next) ∧
      handles.registerOutputs.on next = (.ok (), last)) ∧
    (∃ next handles, paired.registerInto.on announced = (.ok handles, next) ∧
      handles.zones = [1, 2] ∧
      handles.subnetBlock? 2 = some (.ref "subnetCidrBlockForAz2") ∧
      handles.subnetBlock? 0 = none ∧ handles.subnetBlock? 3 = none ∧
      ¬ ∃ last, handles.registerOutputs.on next = (.ok (), last)) ∧
    paired.registerInto.on occupied = (.error (.duplicateId "gatewayCidrBlock" .output), occupied) ∧
    occupied.FirstTaken paired.names (.duplicateId "gatewayCidrBlock" .output) := by
  obtain ⟨free, _, entered, _⟩ := registerInto_zones paired announced
  obtain ⟨next, handles, registered⟩ := free.mpr (by decide +kernel)
  obtain ⟨enters, publishes⟩ := entered next handles registered
  obtain ⟨anew, _, started, _⟩ := registerInto_zones paired (.new "test")
  obtain ⟨first, names, opened⟩ := anew.mpr (by simp [Document.new, Document.ids])
  obtain ⟨last, published⟩ := (started first names opened).2.free.mpr
    (by simp [Document.new, Document.ids])
  have refused : paired.registerInto.on occupied =
      (.error (.duplicateId "gatewayCidrBlock" .output), occupied) := rfl
  refine ⟨⟨first, names, last, opened, published⟩,
    ⟨next, handles, registered, enters.zones, ?_, ?_, ?_, ?_⟩, refused,
    ((registerInto_zones paired occupied).2.1 _ _ refused).1⟩
  · rw [enters.blocks]
    rfl
  · rw [enters.blocks]
    rfl
  · rw [enters.blocks]
    rfl
  · intro published
    exact publishes.free.mp published ⟨"vpcSubnetCidrBlockForAz2"⟩ (by decide +kernel)
      (by decide +kernel)

end Addressing

end StackTemplate
