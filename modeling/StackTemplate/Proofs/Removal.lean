import StackTemplate.Proofs.Locality

namespace StackTemplate

theorem AdvisoryKind.sec_ne (kind : AdvisoryKind) : kind.sec ≠ .resource := by
  cases kind <;> decide

namespace Document

def FirstToName (doc : Document) (target : LogicalId) (d : Declaration) : Prop :=
  ∃ before rest, doc.declarations = before ++ d :: rest ∧ d.Names target ∧
    ∀ other ∈ before, ¬ other.Names target

-- What is said of a naming when the name is gone.
def missed (doc : Document) (id owner : LogicalId) : DocumentError :=
  .unresolvedReference id owner ((doc.after (.remove id)).suggestions id)

theorem findSome?_same {α β : Type} {xs : List α} {f : α → Option β} {e : β} {p : α → Prop}
    [DecidablePred p] (each : ∀ x ∈ xs, f x = if p x then some e else none) :
    xs.findSome? f = if ∃ x ∈ xs, p x then some e else none := by
  induction xs with
  | nil => simp
  | cons x rest ih =>
    obtain ⟨here, others⟩ := List.forall_mem_cons.mp each
    rw [List.findSome?_cons, here, ih others]
    by_cases holds : p x <;> simp [holds]

theorem eraseP_distinct {ds : List Declaration} (distinct : (ds.map (·.id)).Nodup)
    (id : LogicalId) : ds.eraseP (·.id = id) = ds.filter (·.id ≠ id) := by
  induction ds with
  | nil => rfl
  | cons d rest ih =>
    rw [List.map_cons, List.nodup_cons] at distinct
    obtain ⟨fresh, others⟩ := distinct
    by_cases here : d.id = id
    · have kept : ∀ other ∈ rest, other.id ≠ id := by
        intro other member same
        exact fresh (List.mem_map.mpr ⟨other, member, same.trans here.symm⟩)
      rw [List.eraseP_cons_of_pos (by simpa using here),
        List.filter_cons_of_neg (by simpa using here), List.filter_eq_self.mpr (by simpa using kept)]
    · rw [List.eraseP_cons_of_neg (by simpa using here),
        List.filter_cons_of_pos (by simpa using here), ih others]

theorem own_unnamed {doc : Document} (clean : doc.violations = []) {d : Declaration}
    (member : d ∈ doc.declarations) : ¬ d.Names d.id := by
  intro names
  obtain ⟨edge, named, same⟩ := Declaration.names_iff.mp names
  have clear := (violations_nil.mp clean d member).2 edge named
  rw [judge, if_pos same] at clear
  cases clear

section
variable {doc : Document} (sound : doc.Sound) (id : LogicalId)
include sound

theorem remove_declarations :
    (doc.after (.remove id)).declarations = doc.declarations.filter (·.id ≠ id) :=
  eraseP_distinct sound.distinct id

theorem mem_remove {d : Declaration} :
    d ∈ (doc.after (.remove id)).declarations ↔ d ∈ doc.declarations ∧ d.id ≠ id := by
  simp [remove_declarations sound]

theorem remove_find?_self : (doc.after (.remove id)).find? id = none := by
  simp [find?, remove_declarations sound]

-- Positions shift, but of two declarations that stay the same one comes first.
theorem precedes_remove {sections : List Section} {target owner : LogicalId} (kept : owner ≠ id)
    (there : target ≠ id) (precedes : doc.Precedes sections target owner) :
    (doc.after (.remove id)).Precedes sections target owner := by
  obtain ⟨before, d, rest, split, rfl, t, earlier, rfl, allowed⟩ := precedes
  refine ⟨before.filter (·.id ≠ id), d, rest.filter (·.id ≠ id), ?_, rfl, t, ?_, rfl, allowed⟩
  · rw [remove_declarations sound, split, List.filter_append,
      List.filter_cons_of_pos (by simpa using kept)]
  · exact List.mem_filter.mpr ⟨earlier, by simpa using there⟩

variable (clean : doc.violations = []) {d : Declaration} (member : d ∈ doc.declarations)
include clean member

theorem judge_remove (kept : d.id ≠ id) {edge : Edge} (named : edge ∈ d.edges) :
    (doc.after (.remove id)).judge d.id edge =
      if edge.target = id then some (doc.missed id d.id) else none := by
  have clear := (violations_nil.mp clean d member).2 edge named
  by_cases gone : edge.target = id
  · have other : edge.target ≠ d.id := by
      rw [gone]
      exact kept.symm
    rw [judge, if_neg other, gone, remove_find?_self sound, if_pos rfl]
    rfl
  · rw [if_neg gone]
    exact precedes_judge (after_sound sound (.remove id))
      (precedes_remove sound id kept gone (judge_none sound member clear))

-- Whoever names what is gone is wrong for just that reason, and nobody else is wrong.
theorem violations_remove (kept : d.id ≠ id) :
    (d.violations (doc.after (.remove id))).head? =
      if d.Names id then some (doc.missed id d.id) else none := by
  have shape : d.shapeError? = none := by
    rw [Declaration.shapeError?, (violations_nil.mp clean d member).1]
    rfl
  have naming : d.edges.findSome? ((doc.after (.remove id)).judge d.id) =
      if ∃ edge ∈ d.edges, edge.target = id then some (doc.missed id d.id) else none :=
    findSome?_same fun _ => judge_remove sound id clean member kept
  rw [Declaration.head_violations, shape, Option.none_or, naming]
  exact if_congr Declaration.names_iff.symm rfl rfl

theorem image_remove (unnamed : ¬ d.Names id) : d.image (doc.after (.remove id)) = d.image doc := by
  apply Declaration.image_congr
  intro edge valued
  have named : edge ∈ d.edges := Declaration.mem_edges.mpr (.inl valued)
  have clear := (violations_nil.mp clean d member).2 edge named
  obtain ⟨t, declared, same, _⟩ := (judge_none sound member clear).declared
  have kept : t.id ≠ id := by
    rintro rfl
    exact unnamed (Declaration.names_iff.mpr ⟨edge, named, same.symm⟩)
  rw [← same, sectionOf_eq sound declared,
    sectionOf_eq (after_sound sound (.remove id)) ((mem_remove sound id).mpr ⟨declared, kept⟩)]

end

section
variable {doc : Document} (sound : doc.Sound) (clean : doc.violations = []) (id : LogicalId)
include sound clean

theorem remove_clean :
    (doc.after (.remove id)).violations = [] ↔ ∀ d ∈ doc.declarations, d.id ≠ id → ¬ d.Names id := by
  rw [violations, List.flatMap_eq_nil_iff]
  constructor
  · intro right d member kept names
    have nothing := right d ((mem_remove sound id).mpr ⟨member, kept⟩)
    have wrong := violations_remove sound id clean member kept
    rw [nothing, if_pos names] at wrong
    cases wrong
  · intro unnamed d left
    obtain ⟨member, kept⟩ := (mem_remove sound id).mp left
    rw [← List.head?_eq_none_iff, violations_remove sound id clean member kept,
      if_neg (unnamed d member kept)]

theorem remove_missed {e : DocumentError} (wrong : (doc.after (.remove id)).violations.head? = some e) :
    ∃ d, doc.FirstToName id d ∧ d.id ≠ id ∧ e = doc.missed id d.id := by
  rw [violations, List.head?_flatMap, List.findSome?_eq_some_iff] at wrong
  obtain ⟨before, d, rest, split, here, clear⟩ := wrong
  have left : ∀ other ∈ before ++ d :: rest, other ∈ doc.declarations ∧ other.id ≠ id :=
    fun other inside => (mem_remove sound id).mp (split ▸ inside)
  obtain ⟨member, kept⟩ := left d (by simp)
  have names : d.Names id := by
    by_contra unnamed
    rw [violations_remove sound id clean member kept, if_neg unnamed] at here
    cases here
  refine ⟨d, ?_, kept, ?_⟩
  · rw [remove_declarations sound, List.filter_eq_append_iff] at split
    obtain ⟨front, back, whole, rfl, later⟩ := split
    obtain ⟨between, others, rfl, gone, _, _⟩ := List.filter_eq_cons_iff.mp later
    refine ⟨front ++ between, others, by simp [whole], names, ?_⟩
    intro other earlier named
    have inside : other ∈ doc.declarations := by
      rw [whole, ← List.append_assoc]
      exact List.mem_append_left _ earlier
    -- What is gone may stand among them, but it did not name itself.
    by_cases own : other.id = id
    · subst own
      exact own_unnamed clean inside named
    · rcases List.mem_append.mp earlier with first | second
      · have right := clear other (List.mem_filter.mpr ⟨first, by simpa using own⟩)
        rw [violations_remove sound id clean inside own, if_pos named] at right
        cases right
      · exact gone other second (by simpa using own)
  · rw [violations_remove sound id clean member kept, if_pos names] at here
    exact (Option.some.inj here).symm

theorem remove_resolves : (∃ rest, (doc.after (.remove id)).resolve ⟨.allow, .allow⟩ = .ok rest) ↔
    ∀ d ∈ doc.declarations, d.id ≠ id → ¬ d.Names id := by
  rw [← remove_clean sound clean, ← List.head?_eq_none_iff, resolve_allow (after_sound sound (.remove id))]
  cases (doc.after (.remove id)).violations.head? <;> simp

theorem remove_settles {rest : ResolvedDocument}
    (settles : (doc.after (.remove id)).resolve ⟨.allow, .allow⟩ = .ok rest) :
    rest = { doc.image [] with
      declarations := (doc.image []).declarations.filter (·.id ≠ id) } := by
  obtain ⟨nothing, rfl⟩ := resolve_image (after_sound sound (.remove id)) settles
  have unnamed := (remove_clean sound clean id).mp nothing
  have images : (doc.after (.remove id)).declarations.map (·.image (doc.after (.remove id))) =
      (doc.after (.remove id)).declarations.map (·.image doc) := by
    refine List.map_congr_left fun d left => ?_
    obtain ⟨member, kept⟩ := (mem_remove sound id).mp left
    exact image_remove sound id clean member (unnamed d member kept)
  have kept : (doc.image []).declarations.filter (·.id ≠ id) =
      (doc.after (.remove id)).declarations.map (·.image doc) := by
    rw [image, List.filter_map, remove_declarations sound]
    rfl
  rw [kept, ← images]
  rfl

theorem remove_fails {e : DocumentError}
    (fails : (doc.after (.remove id)).resolve ⟨.allow, .allow⟩ = .error e) :
    ∃ d, doc.FirstToName id d ∧ d.id ≠ id ∧ e = doc.missed id d.id := by
  rw [resolve_allow (after_sound sound (.remove id)), settle_error] at fails
  exact remove_missed sound clean id fails

end

-- A document that resolves does so without one of its declarations exactly if no other names it,
-- and then all others resolve to the same. Otherwise the first that names it misses it.
theorem resolve_removed {doc : Document} (reached : doc.Reachable) {plain : ResolvedDocument}
    (resolves : doc.resolve ⟨.allow, .allow⟩ = .ok plain) (id : LogicalId) :
    ((∃ rest, (doc.after (.remove id)).resolve ⟨.allow, .allow⟩ = .ok rest) ↔
      ∀ d ∈ doc.declarations, d.id ≠ id → ¬ d.Names id) ∧
    (∀ rest, (doc.after (.remove id)).resolve ⟨.allow, .allow⟩ = .ok rest →
      rest = { plain with declarations := plain.declarations.filter (·.id ≠ id) }) ∧
    ∀ e, (doc.after (.remove id)).resolve ⟨.allow, .allow⟩ = .error e →
      ∃ d, doc.FirstToName id d ∧ d.id ≠ id ∧
        e = .unresolvedReference id d.id ((doc.after (.remove id)).suggestions id) := by
  have sound := reached.sound
  obtain ⟨clean, rfl⟩ := resolve_image sound resolves
  exact ⟨remove_resolves sound clean id, fun _ => remove_settles sound clean id,
    fun _ => remove_fails sound clean id⟩

def chained : Document := run (.new "test")
  [ .add (.parameter "size" .string),
    .add (.parameter "packet" .string),
    .add (.resource "Bucket" "AWS::S3::Bucket" [("Size", .ref "size")]),
    .add (.resource "Queue" "AWS::SQS::Queue"
      [("Source", .list [.base64 (.getAtt "Bucket" "Arn")])]),
    .add (.output "queue" (.join "-" [.ref "Queue", .ref "Bucket"])) ]

theorem chained_removed : chained.Reachable ∧
    chained.resolve ⟨.allow, .allow⟩ = .ok (chained.image []) ∧
    (chained.after (.remove "packet")).resolve ⟨.allow, .allow⟩ = .ok { chained.image [] with
      declarations := (chained.image []).declarations.filter (·.id ≠ "packet") } ∧
    (chained.after (.remove "Bucket")).resolve ⟨.allow, .allow⟩ =
      .error (.unresolvedReference "Bucket" "Queue" ["packet"]) ∧
    ∃ d, chained.FirstToName "Bucket" d ∧ d.id = "Queue" := by
  have reached : chained.Reachable := (Reachable.empty "test" _).run _
  have resolves : chained.resolve ⟨.allow, .allow⟩ = .ok (chained.image []) :=
    (resolve_ok reached.sound).mpr ⟨by decide, [], rfl, rfl⟩
  have fails : (chained.after (.remove "Bucket")).resolve ⟨.allow, .allow⟩ =
      .error (.unresolvedReference "Bucket" "Queue" ["packet"]) := by
    rw [resolve_allow (after_sound reached.sound _), settle_error]
    decide
  refine ⟨reached, resolves, ?_, fails, ?_⟩
  · have removed := resolve_removed reached resolves "packet"
    obtain ⟨rest, settles⟩ := removed.1.mpr (by decide)
    rw [settles, removed.2.1 rest settles]
  · obtain ⟨d, first, _, same⟩ := (resolve_removed reached resolves "Bucket").2.2 _ fails
    exact ⟨d, first, (DocumentError.unresolvedReference.inj same).2.1.symm⟩

-- What lint can ask for is named by settings and values, not waited for; if it is unused all the
-- same, only parameters are left to name it.
theorem named_unused {doc : Document} (sound : doc.Sound) (clean : doc.violations = [])
    {d t : Declaration} (member : d ∈ doc.declarations) (declared : t ∈ doc.declarations)
    (other : t.sec ≠ .resource) (unused : t.id ∉ doc.used) (names : d.Names t.id) :
    d.sec = .parameter := by
  by_contra counts
  obtain ⟨edge, named, same⟩ := Declaration.names_iff.mp names
  have clear := (violations_nil.mp clean d member).2 edge named
  rcases List.mem_append.mp named with used | awaited
  · exact unused (mem_used.mpr ⟨d, member, counts, edge, used, same⟩)
  · obtain ⟨target, _, rfl⟩ := List.mem_map.mp awaited
    have allowed := sectionOf_allowed sound member clear
    rw [same, sectionOf_eq sound declared] at allowed
    exact other (List.mem_singleton.mp allowed)

-- A declaration that is remarked as unused can be removed, and all others resolve as before,
-- exactly if no parameter names it. The first parameter that does misses it.
theorem resolve_disused {doc : Document} (reached : doc.Reachable) {options : LintOptions}
    {resolved : ResolvedDocument} (resolves : doc.resolve options = .ok resolved)
    {advisory : Advisory} (remarked : advisory ∈ resolved.advisories) :
    ((∃ rest, (doc.after (.remove advisory.id)).resolve ⟨.allow, .allow⟩ = .ok rest) ↔
      ∀ d ∈ doc.declarations, d.sec = .parameter → ¬ d.Names advisory.id) ∧
    (∀ rest, (doc.after (.remove advisory.id)).resolve ⟨.allow, .allow⟩ = .ok rest →
      rest.declarations = resolved.declarations.filter (·.id ≠ advisory.id)) ∧
    ∀ e, (doc.after (.remove advisory.id)).resolve ⟨.allow, .allow⟩ = .error e →
      ∃ d, doc.FirstToName advisory.id d ∧ d.sec = .parameter ∧
        e = .unresolvedReference advisory.id d.id
          ((doc.after (.remove advisory.id)).suggestions advisory.id) := by
  have sound := reached.sound
  obtain ⟨clean, rfl⟩ := resolve_image sound resolves
  obtain ⟨_, ⟨t, declared, sec, same⟩, unused⟩ := mem_remarks.mp remarked
  have parametric {d : Declaration} (member : d ∈ doc.declarations)
      (names : d.Names advisory.id) : d.sec = .parameter := by
    rw [← same] at unused names
    exact named_unused sound clean member declared (sec ▸ advisory.kind.sec_ne) unused names
  refine ⟨?_, ?_, ?_⟩
  · rw [remove_resolves sound clean]
    constructor
    · intro unnamed d member _ names
      refine unnamed d member ?_ names
      intro own
      rw [← own] at names
      exact own_unnamed clean member names
    · exact fun unnamed d member _ names => unnamed d member (parametric member names) names
  · intro rest settles
    rw [remove_settles sound clean _ settles]
    rfl
  · intro e fails
    obtain ⟨d, first, _, missed⟩ := remove_fails sound clean _ fails
    have naming := first
    obtain ⟨before, rest, split, names, _⟩ := naming
    exact ⟨d, first, parametric (by simp [split]) names, missed⟩

-- A parameter whose default is another one, and a third that stands alone.
def borrowed : Document := run (.new "test")
  [ .add (.parameter "name" .string),
    .add (.parameter "label" (ParameterSpec.string.default (.ref "name"))),
    .add (.parameter "size" .string) ]

theorem borrowed_misses : borrowed.Reachable ∧
    borrowed.resolve {} = .ok (borrowed.image (borrowed.remarks {})) ∧
    ⟨.unusedParameter, "name"⟩ ∈ borrowed.remarks {} ∧
    (borrowed.after (.remove "name")).resolve ⟨.allow, .allow⟩ =
      .error (.unresolvedReference "name" "label" []) := by
  have reached : borrowed.Reachable := (Reachable.empty "test" _).run _
  have tolerant : ({} : LintOptions).Tolerant := ⟨by decide, by decide⟩
  refine ⟨reached, resolve_tolerant reached.sound tolerant (by decide), by decide, ?_⟩
  rw [resolve_allow (after_sound reached.sound _), settle_error]
  decide

theorem borrowed_disused : borrowed.Reachable ∧
    borrowed.resolve {} = .ok (borrowed.image (borrowed.remarks {})) ∧
    ⟨.unusedParameter, "size"⟩ ∈ borrowed.remarks {} ∧
    ⟨.unusedParameter, "name"⟩ ∈ borrowed.remarks {} ∧
    (∃ rest, (borrowed.after (.remove "size")).resolve ⟨.allow, .allow⟩ = .ok rest ∧
      rest.declarations.map (·.id) = ["name", "label"]) ∧
    ∃ d, borrowed.FirstToName "name" d ∧ d.sec = .parameter ∧ d.id = "label" := by
  obtain ⟨reached, resolves, name, fails⟩ := borrowed_misses
  have size : ⟨.unusedParameter, "size"⟩ ∈ borrowed.remarks {} := by decide
  refine ⟨reached, resolves, size, name, ?_, ?_⟩
  · have removed := resolve_disused reached resolves size
    obtain ⟨rest, settles⟩ := removed.1.mpr (by decide)
    refine ⟨rest, settles, ?_⟩
    rw [removed.2.1 rest settles]
    decide
  · obtain ⟨d, first, parameter, missed⟩ := (resolve_disused reached resolves name).2.2 _ fails
    exact ⟨d, first, parameter, (DocumentError.unresolvedReference.inj missed).2.1.symm⟩

-- To be remarked as unused is not enough.
theorem borrowed_missed : ¬ ∀ doc : Document, doc.Reachable → ∀ options resolved,
    doc.resolve options = .ok resolved → ∀ advisory ∈ resolved.advisories,
      ∃ rest, (doc.after (.remove advisory.id)).resolve ⟨.allow, .allow⟩ = .ok rest ∧
        rest.declarations = resolved.declarations.filter (·.id ≠ advisory.id) := by
  intro acted
  obtain ⟨reached, resolves, name, fails⟩ := borrowed_misses
  obtain ⟨rest, settles, _⟩ := acted borrowed reached {} _ resolves _ name
  rw [fails] at settles
  cases settles

end Document

end StackTemplate
