import StackTemplate.Proofs.Locality

namespace StackTemplate

namespace Document

inductive Later (doc : Document) : Document → Prop where
  | same : Later doc doc
  | registered {middle next : Document} {registration : Registration} {answer : Answer}
      (before : Later doc middle)
      (performed : (perform (.add registration)).on middle = (.ok answer, next)) : Later doc next
  | package {middle next : Document} {package : Package} {handles : PackageHandles}
      (before : Later doc middle) (registered : package.registerInto.on middle = (.ok handles, next)) :
      Later doc next
  | addressing {middle next : Document} {addressing : Addressing} {handles : AddressingHandles}
      (before : Later doc middle)
      (registered : addressing.registerInto.on middle = (.ok handles, next)) : Later doc next
  | outputs {middle next : Document} {handles : AddressingHandles} (before : Later doc middle)
      (registered : handles.registerOutputs.on middle = (.ok (), next)) : Later doc next

theorem Later.reachable {doc next : Document} (reached : doc.Reachable) (later : doc.Later next) :
    next.Reachable := by
  have left {α : Type} {middle next : Document} {work : Drafting α} {result : α}
      (ran : work.on middle = (.ok result, next)) (known : (work.on middle).2.Reachable) :
      next.Reachable := by rwa [ran] at known
  induction later with
  | same => exact reached
  | registered _ performed ih => exact left performed (.operation ih _)
  | package _ registered ih => exact left registered (.package ih _)
  | addressing _ registered ih => exact left registered (.addressing ih _)
  | outputs _ registered ih => exact left registered (.outputs ih _)

theorem Later.appended {doc next : Document} (later : doc.Later next) :
    ∃ added, next = doc.append added := by
  -- Every way to register puts one whole batch at the end.
  have further {α : Type} {middle next : Document} {batch : List Declaration}
      {wrong : Option DocumentError} {own result : α} (earlier : ∃ added, middle = doc.append added)
      (put : middle.outcome wrong (middle.append batch) own = (.ok result, next)) :
      ∃ added, next = doc.append added := by
    obtain ⟨added, rfl⟩ := earlier
    obtain ⟨_, rfl, _⟩ := outcome_ok.mp put
    exact ⟨added ++ batch, append_append doc added batch⟩
  induction later with
  | same => exact ⟨[], by simp [append]⟩
  | registered _ performed ih =>
    rw [perform_add] at performed
    exact further ih performed
  | @package middle _ package _ _ registered ih =>
    obtain ⟨_, entered⟩ := package_on package middle
    exact further ih (entered.symm.trans registered)
  | @addressing middle _ addressing _ _ registered ih =>
    obtain ⟨_, entered⟩ := addressing_on addressing middle
    exact further ih (entered.symm.trans registered)
  | @outputs middle _ handles _ registered ih =>
    exact further ih ((outputs_on handles middle).symm.trans registered)

section
variable {doc : Document} {added : List Declaration}

theorem append_member {d : Declaration} (member : d ∈ doc.declarations) :
    d ∈ (doc.append added).declarations := List.mem_append_left _ member

theorem sound_of_append (sound : (doc.append added).Sound) : doc.Sound := by
  have ids := ids_append doc added
  refine ⟨?_, fun id known => sound.proper id ?_⟩
  · have distinct := sound.distinct
    rw [ids] at distinct
    exact (List.nodup_append.mp distinct).1
  · rw [ids]
    exact List.mem_append_left _ known

theorem append_apart (sound : (doc.append added).Sound) {d t : Declaration}
    (member : d ∈ doc.declarations) (new : t ∈ added) : d.id ≠ t.id := by
  have distinct := sound.distinct
  rw [ids_append] at distinct
  exact (List.nodup_append.mp distinct).2.2 _ (List.mem_map_of_mem member) _
    (List.mem_map_of_mem new)

-- What stands before a declaration stood before it already when nothing had been added.
theorem precedes_append (sound : (doc.append added).Sound) {d : Declaration}
    (member : d ∈ doc.declarations) {sections : List Section} {target : LogicalId}
    (precedes : (doc.append added).Precedes sections target d.id) :
    doc.Precedes sections target d.id := by
  obtain ⟨before, owner, rest, split, named, t, earlier, found, allowed⟩ := precedes
  have split : doc.declarations ++ added = before ++ owner :: rest := split
  rcases List.append_eq_append_iff.mp split with ⟨gap, _, new⟩ | ⟨gap, old, whole⟩
  · have outside : owner ∈ added := by simp [new]
    exact absurd named.symm (append_apart sound member outside)
  · cases gap with
    | nil =>
      have outside : owner ∈ added := by simp at whole; simp [← whole]
      exact absurd named.symm (append_apart sound member outside)
    | cons head between =>
      cases whole
      exact ⟨before, owner, between, old, named, t, earlier, found, allowed⟩

theorem sectionOf_append (sound : (doc.append added).Sound) {d : Declaration}
    (member : d ∈ doc.declarations) : (doc.append added).sectionOf d.id = doc.sectionOf d.id := by
  rw [sectionOf_eq sound (append_member member), sectionOf_eq (sound_of_append sound) member]

theorem violations_append (sound : (doc.append added).Sound)
    (clean : (doc.append added).violations = []) : doc.violations = [] := by
  apply (violations_nil_iff (sound_of_append sound)).mpr
  intro d member
  obtain ⟨shape, ordered⟩ := (violations_nil_iff sound).mp clean d (append_member member)
  exact ⟨shape, fun edge named => precedes_append sound member (ordered edge named)⟩

-- A declaration that was there and with which nothing is wrong resolves as it did.
theorem image_append (sound : (doc.append added).Sound)
    (clean : (doc.append added).violations = []) {d : Declaration}
    (member : d ∈ doc.declarations) : d.image (doc.append added) = d.image doc := by
  apply Declaration.image_congr
  intro edge named
  have earlier := ((violations_nil_iff sound).mp clean d (append_member member)).2 edge
    (Declaration.mem_edges.mpr (.inl named))
  obtain ⟨t, declared, same, _⟩ := (precedes_append sound member earlier).declared
  rw [← same]
  exact sectionOf_append sound declared

theorem used_append (id : LogicalId) (used : id ∈ doc.used) : id ∈ (doc.append added).used := by
  obtain ⟨d, member, counts, uses⟩ := mem_used.mp used
  exact mem_used.mpr ⟨d, append_member member, counts, uses⟩

-- What is added can use a declaration that was there, and cannot make it less used.
theorem remarks_append (sound : (doc.append added).Sound) {options : LintOptions}
    {advisory : Advisory} (remarked : advisory ∈ (doc.append added).remarks options)
    (known : advisory.id ∈ doc.ids) : advisory ∈ doc.remarks options := by
  obtain ⟨level, ⟨d, declared, sec, named⟩, unused⟩ := mem_remarks.mp remarked
  refine mem_remarks.mpr ⟨level, ⟨d, ?_, sec, named⟩, fun used => unused (used_append _ used)⟩
  rcases List.mem_append.mp declared with old | new
  · exact old
  · obtain ⟨holder, member, same⟩ := List.mem_map.mp known
    exact absurd (same.trans named.symm) (append_apart sound member new)

end

-- If a document resolves after further registrations, it resolved before them, and to the first part
-- of the same. What was there and is still remarked as unused was remarked then.
theorem resolve_earlier {doc next : Document} (reached : doc.Reachable) (later : doc.Later next)
    {options : LintOptions} (tolerant : options.Tolerant) {resolved : ResolvedDocument}
    (resolves : next.resolve options = .ok resolved) :
    ∃ earlier, doc.resolve options = .ok earlier ∧
      earlier.declarations = resolved.declarations.take doc.size ∧
      ∀ advisory ∈ resolved.advisories, advisory.id ∈ doc.ids → advisory ∈ earlier.advisories := by
  have sound := (later.reachable reached).sound
  obtain ⟨added, rfl⟩ := later.appended
  obtain ⟨clean, rfl⟩ := resolve_image sound resolves
  refine ⟨doc.image (doc.remarks options),
    resolve_tolerant reached.sound tolerant (violations_append sound clean), ?_, ?_⟩
  · have front : (doc.append added).declarations.take doc.size = doc.declarations :=
      List.take_left
    change doc.declarations.map (·.image doc) =
      ((doc.append added).declarations.map (·.image (doc.append added))).take doc.size
    rw [← List.map_take, front]
    apply List.map_congr_left
    intro d member
    exact (image_append sound clean member).symm
  · intro advisory remarked known
    exact remarks_append sound remarked known

def drafted : Document := run (.new "test")
  [ .add (.parameter "size" .string),
    .add (.parameter "name" .string),
    .add (.parameter "label" .string),
    .add (.resource "Bucket" "AWS::S3::Bucket" [("Size", .ref "size")]) ]

def continuation : List Declaration :=
  [.output "bucket" (.join "-" [.ref "Bucket", .ref "name"]), .ofCondition "Spare" "x"]

-- What is registered later takes another of them and the bucket.
def finished : Document := drafted.append continuation

theorem drafted_earlier : drafted.Reachable ∧ drafted.Later finished ∧
    LintOptions.Tolerant {} ∧
    finished.resolve {} = .ok (finished.image
      [⟨.unusedParameter, "label"⟩, ⟨.unusedCondition, "Spare"⟩]) ∧
    ∃ earlier, drafted.resolve {} = .ok earlier ∧
      earlier.declarations = (finished.image
        [⟨.unusedParameter, "label"⟩, ⟨.unusedCondition, "Spare"⟩]).declarations.take 4 ∧
      ⟨.unusedParameter, "label"⟩ ∈ earlier.advisories := by
  have reached : drafted.Reachable := (Reachable.empty "test" _).run _
  have performed : (perform (.add (.batch continuation))).on drafted =
      (.ok (.several ["bucket", "Spare"]), finished) := by
    rw [perform_add]
    rfl
  have later : drafted.Later finished := .registered .same performed
  have tolerant : LintOptions.Tolerant {} := ⟨by decide, by decide⟩
  have resolves : finished.resolve {} = .ok (finished.image
      [⟨.unusedParameter, "label"⟩, ⟨.unusedCondition, "Spare"⟩]) :=
    (resolve_ok (later.reachable reached).sound).mpr ⟨by decide, _, by decide, rfl⟩
  obtain ⟨earlier, before, front, remarks⟩ := resolve_earlier reached later tolerant resolves
  refine ⟨reached, later, tolerant, resolves, earlier, before, front, ?_⟩
  exact remarks _ List.mem_cons_self (by decide)

end Document

end StackTemplate
