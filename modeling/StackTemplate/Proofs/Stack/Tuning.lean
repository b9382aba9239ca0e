import StackTemplate.Proofs.Stack.Outcome

namespace StackTemplate

-- The same declaration, or the same parameter with another default, if its name is among those
-- that may be tuned.
def Declaration.Tuned (names : List LogicalId) (d e : Declaration) : Prop :=
  e = d ∨ d.id ∈ names ∧ d.sec = .parameter ∧ (d.attribute? "Default").isSome = true ∧
    ∃ value, e = d.setAttribute "Default" value

abbrev Retuned (names : List LogicalId) : List Declaration → List Declaration → Prop :=
  List.Forall₂ (Declaration.Tuned names)

namespace Declaration.Tuned
variable {names more : List LogicalId} {d e : Declaration}

theorem mono (tuned : d.Tuned names e) (wider : names ⊆ more) : d.Tuned more e :=
  tuned.imp_right fun ⟨named, rest⟩ => ⟨wider named, rest⟩

theorem id_eq (tuned : d.Tuned names e) : e.id = d.id := by
  rcases tuned with rfl | ⟨_, _, _, value, rfl⟩ <;> rfl

-- Over a default that is already there, another one takes its place.
theorem default {id : LogicalId} (named : id ∈ names) (spec : ParameterSpec) (one other : Value) :
    (parameter id (spec.default one)).Tuned names (parameter id (spec.default other)) := by
  refine .inr ⟨named, rfl, ?_, other, ?_⟩
  · rw [parameter_default]
    rfl
  · simp [parameter, setAttribute, ParameterSpec.default, ParameterSpec.set, Entries.insert_insert]

end Declaration.Tuned

namespace Retuned
variable {names more : List LogicalId} {ds es : List Declaration}

theorem same (names : List LogicalId) (ds : List Declaration) : Retuned names ds ds :=
  List.forall₂_same.mpr fun _ _ => .inl rfl

theorem mono (tuned : Retuned names ds es) (wider : names ⊆ more) : Retuned more ds es :=
  tuned.imp fun _ _ tuned => tuned.mono wider

theorem append {front back : List Declaration} (tuned : Retuned names ds es)
    (also : Retuned names front back) : Retuned names (ds ++ front) (es ++ back) :=
  List.rel_append tuned also

theorem followed (tuned : Retuned names ds es) (back : List Declaration) :
    Retuned names (ds ++ back) (es ++ back) := tuned.append (same names back)

theorem ids_eq (tuned : Retuned names ds es) : es.map (·.id) = ds.map (·.id) := by
  induction tuned with
  | nil => rfl
  | cons first _ ih => rw [List.map_cons, List.map_cons, first.id_eq, ih]

end Retuned

theorem Tagging.parameters_retuned (tagging other : Tagging) :
    Retuned [classificationId] tagging.parameters other.parameters :=
  .cons (.inl rfl) (.cons (.inl rfl)
    (.cons (.default (.head _) _ _ _) (.cons (.inl rfl) .nil)))

namespace Addressing

def tunable (zones : List Nat) : List LogicalId :=
  gatewayBlockId :: vpcBlockId :: zones.map subnetBlockId

theorem zones_congr {addressing other : Addressing}
    (count : other.subnetBlocks.length = addressing.subnetBlocks.length) :
    other.zones = addressing.zones := by
  simp only [zones, zoneCount, count]

theorem subnetParameters_retuned {names : List LogicalId} {blocks others : List String}
    (count : others.length = blocks.length) {first : Nat}
    (named : ∀ index, first ≤ index → index < first + blocks.length →
      subnetBlockId (index + 1) ∈ names) :
    Retuned names
      ((blocks.zipIdx first).map fun (block, index) => subnetParameter (index + 1) block)
      ((others.zipIdx first).map fun (block, index) => subnetParameter (index + 1) block) := by
  induction blocks generalizing others first with
  | nil =>
    rw [List.length_eq_zero_iff.mp count]
    exact .nil
  | cons block rest ih =>
    obtain ⟨other, further, rfl⟩ := List.exists_cons_of_length_eq_add_one count
    rw [List.length_cons] at named
    refine .cons (.default (named first (by omega) (by omega)) _ _ _) (ih (by simpa using count) ?_)
    intro index above below
    exact named index (by omega) (by omega)

theorem parameters_retuned {addressing other : Addressing}
    (count : other.subnetBlocks.length = addressing.subnetBlocks.length) :
    Retuned (tunable addressing.zones) addressing.parameters other.parameters := by
  have gateway : gatewayBlockId ∈ tunable addressing.zones := .head _
  have vpc : vpcBlockId ∈ tunable addressing.zones := .tail _ (.head _)
  refine List.rel_append (.cons (.inl rfl) (.cons (.default gateway _ _ _)
    (.cons (.default vpc _ _ _) .nil))) (subnetParameters_retuned count fun index _ below => ?_)
  refine .tail _ (.tail _ (List.mem_map_of_mem (mem_zones.mpr ⟨Nat.le_add_left 1 index, ?_⟩)))
  rw [zoneCount]
  omega

end Addressing

namespace Stack

-- The parameters whose defaults the settings fix.
def tunable : Stack → List Nat → List LogicalId
  | .lambda, _ => []
  | .vpc, zones => Tagging.classificationId :: Addressing.tunable zones
  | _, _ => [Tagging.classificationId]

theorem declarations_retuned (stack : Stack) {settings other : Settings}
    (count : other.addressing.subnetBlocks.length = settings.addressing.subnetBlocks.length) :
    Retuned (stack.tunable settings.addressing.zones) (stack.declarations settings)
      (stack.declarations other) := by
  have zones := Addressing.zones_congr count
  have tags := settings.tagging.parameters_retuned other.tagging
  have cluster (layout : Cluster.Layout) : Retuned [Tagging.classificationId]
      (layout.declarations settings) (layout.declarations other) := by
    simp only [Cluster.Layout.declarations, zones]
    exact ((((tags.followed _).followed _).followed _).followed _).followed _
  cases stack with
  | vpc =>
    have own : Retuned (Stack.vpc.tunable settings.addressing.zones) settings.tagging.parameters
        other.tagging.parameters := tags.mono (List.cons_subset_cons _ (List.nil_subset _))
    have blocks := (Addressing.parameters_retuned count).mono
      (List.subset_cons_self Tagging.classificationId _)
    simp only [declarations, Vpc.declarations, Vpc.parameters, zones, List.append_assoc]
    exact own.append (blocks.followed _)
  | lambda => exact .same _ _
  | consul => exact cluster Consul.layout
  | gateway => exact cluster Gateway.layout
  | cms => exact cluster Cms.layout
  | vault => exact cluster Vault.layout
  | rdsBackup => exact cluster RdsBackup.layout

-- Two runs of a builder tell the settings apart only by the number of zones and by defaults of
-- parameters that may be tuned. How a template is checked and written is no matter of the builder.
theorem build_tuned (stack : Stack) (settings other : Settings) :
    (other.addressing.subnetBlocks.length = settings.addressing.subnetBlocks.length →
      ∃ doc also, stack.build settings = .ok doc ∧ stack.build other = .ok also ∧
        also.description = doc.description ∧ also.formatVersion = doc.formatVersion ∧
        also.declarations.map (·.id) = doc.declarations.map (·.id) ∧
        Retuned (stack.tunable settings.addressing.zones) doc.declarations also.declarations) ∧
    Stack.lambda.build other = Stack.lambda.build settings ∧
    ∀ (lint : LintOptions) (template : TemplateOptions),
      stack.build { settings with lint, template } = stack.build settings := by
  refine ⟨fun count => ?_, rfl, fun lint template => ?_⟩
  · have retuned := stack.declarations_retuned count
    exact ⟨_, _, stack.build_eq settings, stack.build_eq other, rfl, rfl, retuned.ids_eq, retuned⟩
  · have same : stack.draft { settings with lint, template } = stack.draft settings := by
      cases stack <;> rfl
    rw [build, build, same]

theorem vpc_tuned :
    ∃ doc also, Stack.vpc.build { addressing := { subnetBlocks := ["10.0.0.0/24"] } } = .ok doc ∧
      Stack.vpc.build { addressing := ⟨"10.0.0.0/8", "10.0.0.0/16", ["10.0.1.0/24"]⟩,
                        tagging := ⟨"Silver"⟩ } = .ok also ∧
      Retuned ["tagClassification", "gatewayCidrBlock", "vpcCidrBlock", "subnetCidrBlockForAz1"]
        doc.declarations also.declarations := by
  obtain ⟨doc, also, built, again, _, _, _, retuned⟩ := (build_tuned .vpc
    { addressing := { subnetBlocks := ["10.0.0.0/24"] } }
    { addressing := ⟨"10.0.0.0/8", "10.0.0.0/16", ["10.0.1.0/24"]⟩, tagging := ⟨"Silver"⟩ }).1 rfl
  exact ⟨doc, also, built, again, retuned⟩

end Stack

end StackTemplate
