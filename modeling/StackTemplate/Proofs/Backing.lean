import StackTemplate.Proofs.Precedence
import StackTemplate.Proofs.Places

namespace StackTemplate

-- What a declaration offers to those after it: its name, to be used as its section allows.
def Declaration.offer (d : Declaration) : Use := ⟨d.id, d.sec⟩

def Edge.Backed (known : List Use) (edge : Edge) : Prop :=
  ∃ sec ∈ edge.kind.allowed, ⟨edge.target, sec⟩ ∈ known

structure Declaration.Backed (known : List Use) (d : Declaration) : Prop where
  shape : d.misplaced? = none
  writable : d.Writable
  edges : ∀ edge ∈ d.edges, edge.Backed known

def Backed (known : List Use) : List Declaration → Prop
  | [] => True
  | d :: rest => d.Backed known ∧ Backed (d.offer :: known) rest

section
variable {known more : List Use}

theorem Edge.Backed.mono {edge : Edge} (backed : edge.Backed known) (wider : known ⊆ more) :
    edge.Backed more := by
  obtain ⟨sec, allowed, member⟩ := backed
  exact ⟨sec, allowed, wider member⟩

theorem Declaration.Backed.mono {d : Declaration} (backed : d.Backed known) (wider : known ⊆ more) :
    d.Backed more :=
  ⟨backed.shape, backed.writable, fun edge member => (backed.edges edge member).mono wider⟩

theorem Declaration.Backed.references {d : Declaration} (shape : d.misplaced? = none)
    (whole : d.fractions = []) (resourceful : d.sec ≠ .condition) (uses : List Use)
    (edges : d.edges = uses.map fun use => ⟨.ref, use.target⟩)
    (usable : ∀ use ∈ uses, use.sec ∈ ReferenceKind.ref.allowed) (given : uses ⊆ known) :
    d.Backed known := by
  refine ⟨shape, ⟨by simp [whole], fun condition => absurd condition resourceful⟩, ?_⟩
  rw [edges, List.forall_mem_map]
  exact fun use member => ⟨use.sec, usable use member, given member⟩

theorem Backed.mono {ds : List Declaration} (backed : Backed known ds) (wider : known ⊆ more) :
    Backed more ds := by
  induction ds generalizing known more with
  | nil => trivial
  | cons d rest ih =>
    exact ⟨backed.1.mono wider, ih backed.2 (List.cons_subset_cons _ wider)⟩

theorem Backed.append {front back : List Declaration} (first : Backed known front)
    (second : Backed (front.map (·.offer) ++ known) back) : Backed known (front ++ back) := by
  induction front generalizing known with
  | nil => exact second
  | cons d rest ih => exact ⟨first.1, ih first.2 (second.mono List.perm_middle.symm.subset)⟩

theorem Backed.all {ds : List Declaration} (each : ∀ d ∈ ds, d.Backed known) : Backed known ds := by
  induction ds generalizing known with
  | nil => trivial
  | cons d rest ih =>
    obtain ⟨first, others⟩ := List.forall_mem_cons.mp each
    exact ⟨first, ih fun d member => (others d member).mono (List.subset_cons_self _ _)⟩

theorem Backed.each {zones : List Nat} {parts : Nat → List Declaration}
    (backed : ∀ zone ∈ zones, Backed known (parts zone)) : Backed known (zones.flatMap parts) := by
  induction zones generalizing known with
  | nil => trivial
  | cons zone rest ih =>
    obtain ⟨first, others⟩ := List.forall_mem_cons.mp backed
    exact first.append (ih fun other member =>
      (others other member).mono (List.subset_append_right _ _))

theorem Backed.split {before rest : List Declaration} {d : Declaration}
    (backed : Backed known (before ++ d :: rest)) : d.Backed (before.map (·.offer) ++ known) := by
  induction before generalizing known with
  | nil => exact backed.1
  | cons first before ih => exact (ih backed.2).mono List.perm_middle.subset

end

theorem refusal?_fresh {held batch : List Declaration} (proper : ∀ d ∈ batch, d.id.isValid = true)
    (distinct : ((held ++ batch).map (·.id)).Nodup) : refusal? held batch = none := by
  induction batch generalizing held with
  | nil => rfl
  | cons d rest ih =>
    obtain ⟨first, others⟩ := List.forall_mem_cons.mp proper
    have fresh : held.find? (·.id = d.id) = none := by
      rw [Document.find?_none]
      rw [List.map_append, List.nodup_append] at distinct
      intro taken
      exact distinct.2.2 d.id taken d.id (by simp) rfl
    rw [refusal?, if_pos first, fresh]
    exact ih others (by simpa using distinct)

namespace Document

-- Nothing is wrong with a document in which each declaration is of its section's shape and names
-- only what stands before it.
theorem ordered_clear {doc : Document} (sound : doc.Sound)
    (ordered : ∀ before d rest, doc.declarations = before ++ d :: rest →
      d.misplaced? = none ∧ ∀ edge ∈ d.edges, edge.Backed (before.map (·.offer))) :
    doc.violations = [] := by
  rw [violations_nil]
  intro d member
  obtain ⟨before, rest, split⟩ := List.append_of_mem member
  obtain ⟨shape, backed⟩ := ordered before d rest split
  refine ⟨shape, ?_⟩
  intro edge inside
  obtain ⟨sec, allowed, offered⟩ := backed edge inside
  obtain ⟨t, earlier, same⟩ := List.mem_map.mp offered
  obtain ⟨named, found⟩ := Use.mk.inj same
  rw [← found] at allowed
  exact precedes_judge sound ⟨before, d, rest, split, rfl, t, earlier, named, allowed⟩

theorem backed_clear {doc : Document} (sound : doc.Sound) (backed : Backed [] doc.declarations) :
    doc.violations = [] := by
  refine ordered_clear sound fun before d rest split => ?_
  rw [split] at backed
  have here := backed.split
  rw [List.append_nil] at here
  exact ⟨here.shape, here.edges⟩

-- Of a document of backed declarations only what is unused is left to judge.
theorem assemble_backed {doc : Document} (sound : doc.Sound) (backed : Backed [] doc.declarations)
    (options : AssemblyOptions) :
    doc.assemble options =
      match doc.lint doc.used options.lint with
      | .ok advisories => .ok ⟨((doc.image advisories).json options.template).text
          options.template.pretty, advisories⟩
      | .error e => .error (.document e) := by
  have writable : ∀ d ∈ doc.declarations, d.Writable := by
    intro d member
    obtain ⟨before, rest, split⟩ := List.append_of_mem member
    rw [split] at backed
    exact backed.split.writable
  have clear := backed_clear sound backed
  cases linted : doc.lint doc.used options.lint with
  | ok advisories =>
    exact assemble_eq options writable ((resolve_ok sound).mpr ⟨clear, advisories, linted, rfl⟩)
  | error e =>
    have failed : doc.resolve options.lint = .error e := by
      rw [resolve_eq sound, clear]
      change Except.map doc.image (doc.lint doc.used options.lint) = .error e
      rw [linted]
      rfl
    rw [assemble, failed]
    rfl

end Document

end StackTemplate
