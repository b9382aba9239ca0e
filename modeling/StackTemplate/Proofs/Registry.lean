import Mathlib.Data.List.Nodup
import StackTemplate.Addressing
import StackTemplate.Package
import StackTemplate.Proofs.Drafting

namespace StackTemplate

def LogicalId.Proper (id : LogicalId) : Prop :=
  id.text ≠ "" ∧ ∀ c ∈ id.text.toList,
    ('0' ≤ c ∧ c ≤ '9') ∨ ('A' ≤ c ∧ c ≤ 'Z') ∨ ('a' ≤ c ∧ c ≤ 'z')

theorem LogicalId.isValid_iff {id : LogicalId} : id.isValid = true ↔ id.Proper := by
  simp [LogicalId.isValid, LogicalId.Proper, LogicalId.isAlphanum_iff]

inductive Registration where
  | single (d : Declaration)
  | batch (ds : List Declaration)
  | builtResource (d : Declaration)
  | parameter (id : LogicalId) (spec : ParameterSpec)
  | resource (id : LogicalId) (kind : String) (properties : Entries Value)
  | output (id : LogicalId) (value : Value)
  | condition (id : LogicalId) (expression : Value)

inductive Operation where
  | add (registration : Registration)
  | remove (id : LogicalId)

inductive Answer where
  | one (id : LogicalId)
  | several (ids : List LogicalId)
  | parameter (handle : ParameterHandle)
  | resource (handle : ResourceHandle)
  | condition (handle : ConditionHandle)
  | done
  | removed (d : Option Declaration)

namespace Registration

def given : Registration → List Declaration
  | .single d => [d]
  | .batch ds => ds
  | .builtResource d => [d]
  | .parameter id spec => [.parameter id spec]
  | .resource id kind properties => [.resource id kind properties]
  | .output id value => [.output id value]
  | .condition id expression => [.ofCondition id expression]

def receipt : Registration → Answer
  | .single d => .one d.id
  | .batch ds => .several (ds.map (·.id))
  | .builtResource d => .resource ⟨d.id⟩
  | .parameter id _ => .parameter ⟨id⟩
  | .resource id _ _ => .resource ⟨id⟩
  | .output _ _ => .done
  | .condition id _ => .condition ⟨id⟩

end Registration

def Answer.names : Answer → List LogicalId
  | .one id => [id]
  | .several ids => ids
  | .parameter handle => [handle.id]
  | .resource handle => [handle.id]
  | .condition handle => [handle.id]
  | .done => []
  | .removed _ => []

namespace Document

def append (doc : Document) (added : List Declaration) : Document :=
  { doc with declarations := doc.declarations ++ added }

def perform : Operation → Drafting Answer
  | .add (.single d) => return .one (← register d)
  | .add (.batch ds) => return .several (← registerAll ds)
  | .add (.builtResource d) => return .resource (← addResource d)
  | .add (.parameter id spec) => return .parameter (← declareParameter id spec)
  | .add (.resource id kind properties) => return .resource (← declareResource id kind properties)
  | .add (.output id value) => do
    declareOutput id value
    return .done
  | .add (.condition id expression) => return .condition (← declareCondition id expression)
  | .remove id => return .removed (← remove id)

def after (doc : Document) (op : Operation) : Document := ((perform op).on doc).2

def run (doc : Document) (ops : List Operation) : Document := ops.foldl after doc

end Document

-- What keeps declarations from being added to others: the first name, in order, that is no proper
-- one or that somebody before it has.
def refusal? (held : List Declaration) : List Declaration → Option DocumentError
  | [] => none
  | d :: rest =>
    if d.id.isValid then
      match held.find? (·.id = d.id) with
      | some holder => some (.duplicateId d.id holder.sec)
      | none => refusal? (held ++ [d]) rest
    else some (.invalidLogicalId d.id)

def Registration.refusal? (held : List Declaration) : Registration → Option DocumentError
  | .builtResource d =>
    if d.sec = .resource then StackTemplate.refusal? held [d]
    else some (.unexpectedSection d.id .resource d.sec)
  | registration => StackTemplate.refusal? held registration.given

namespace Document

theorem find?_none {declarations : List Declaration} {id : LogicalId} :
    declarations.find? (·.id = id) = none ↔ id ∉ declarations.map (·.id) := by
  simp [List.find?_eq_none]

theorem checkAvailable_eq (doc : Document) (d : Declaration) :
    doc.checkAvailable d.id = settle (refusal? doc.declarations [d]) () := by
  unfold checkAvailable refusal? find?
  cases valid : d.id.isValid with
  | false => simp
  | true =>
    cases declared : doc.declarations.find? (·.id = d.id) with
    | some holder => simp
    | none => simp [refusal?]

theorem checkBatch_eq (doc : Document) (earlier batch : List Declaration) :
    doc.checkBatch earlier batch =
      settle (refusal? (doc.declarations ++ earlier) batch) () := by
  induction batch generalizing earlier with
  | nil => rfl
  | cons d rest ih =>
    unfold checkBatch refusal? checkAvailable find?
    cases valid : d.id.isValid with
    | false => simp
    | true =>
      cases declared : doc.declarations.find? (·.id = d.id) with
      | some holder => simp [declared]
      | none =>
        cases twin : earlier.find? (·.id = d.id) with
        | some holder => simp [declared, twin]
        | none => simp [declared, twin, ih]

theorem into_fresh {d : Declaration} {held : List Declaration} (fresh : d.id ∉ held.map (·.id)) :
    d.into held = held ++ [d] := by
  induction held with
  | nil => rfl
  | cons first rest ih =>
    rw [List.map_cons, List.mem_cons, not_or] at fresh
    rw [Declaration.into, if_neg (Ne.symm fresh.1), ih fresh.2, List.cons_append]

theorem refusal?_cons (held : List Declaration) (d : Declaration) (rest : List Declaration) :
    refusal? held (d :: rest) = (refusal? held [d]).or (refusal? (held ++ [d]) rest) := by
  rw [refusal?, refusal?]
  by_cases valid : d.id.isValid
  · rw [if_pos valid, if_pos valid]
    cases held.find? (·.id = d.id) with
    | some holder => rfl
    | none => rfl
  · rw [if_neg valid, if_neg valid]
    rfl

theorem refusal?_append (held ds es : List Declaration) :
    refusal? held (ds ++ es) = (refusal? held ds).or (refusal? (held ++ ds) es) := by
  induction ds generalizing held with
  | nil => rw [List.nil_append, List.append_nil, refusal?, Option.none_or]
  | cons d rest ih =>
    rw [List.cons_append, refusal?_cons, ih, refusal?_cons held d rest, Option.or_assoc,
      List.append_assoc, List.singleton_append]

theorem refusal?_single {held : List Declaration} {d : Declaration} :
    refusal? held [d] = none ↔ d.id.isValid = true ∧ d.id ∉ held.map (·.id) := by
  rw [refusal?]
  split
  · rename_i valid
    rw [← find?_none]
    cases held.find? (·.id = d.id) <;> simp [valid, refusal?]
  · rename_i invalid
    simp [invalid]

theorem insert_on {doc : Document} {d : Declaration}
    (accepted : refusal? doc.declarations [d] = none) :
    (insert d).on doc = (.ok d.id, doc.append [d]) := by
  have written : (insert d).on doc =
      (.ok d.id, { doc with declarations := d.into doc.declarations }) := rfl
  rw [written, into_fresh (refusal?_single.mp accepted).2]
  rfl

-- A member is inserted into a document that holds the members before it already.
theorem inserts_on {doc : Document} {batch : List Declaration}
    (accepted : refusal? doc.declarations batch = none) :
    (batch.mapM insert).on doc = (.ok (batch.map (·.id)), doc.append batch) := by
  induction batch generalizing doc with
  | nil => rw [List.mapM_nil, Drafting.on_pure, append, List.append_nil]; rfl
  | cons d rest ih =>
    rw [refusal?_cons, Option.or_eq_none_iff] at accepted
    have others : (rest.mapM insert).on (doc.append [d]) =
        (.ok (rest.map (·.id)), (doc.append [d]).append rest) := ih accepted.2
    rw [List.mapM_cons, Drafting.on_bind_ok (insert_on accepted.1), Drafting.on_bind_ok others,
      Drafting.on_pure]
    simp [append]

theorem register_on (doc : Document) (d : Declaration) :
    (register d).on doc = doc.outcome (refusal? doc.declarations [d]) (doc.append [d]) d.id := by
  rw [register, Drafting.on_get, checkAvailable_eq]
  exact Drafting.on_checked insert_on

-- The names are checked one by one before the first of them is inserted, so a batch that is refused
-- leaves nothing behind.
theorem registerAll_on (doc : Document) (batch : List Declaration) :
    (registerAll batch).on doc =
      doc.outcome (refusal? doc.declarations batch) (doc.append batch) (batch.map (·.id)) := by
  rw [registerAll, Drafting.on_get, checkBatch_eq, List.append_nil]
  exact Drafting.on_checked inserts_on

theorem addResource_on (doc : Document) {d : Declaration} (resource : d.sec = .resource) :
    (addResource d).on doc =
      doc.outcome (refusal? doc.declarations [d]) (doc.append [d]) ⟨d.id⟩ := by
  have passed : addResource d = register d >>= fun id => pure ⟨id⟩ := by
    simp [addResource, resource]
  rw [passed]
  exact Drafting.on_then (register_on doc d) rfl

theorem addResource_misfit (doc : Document) {d : Declaration} (other : d.sec ≠ .resource) :
    (addResource d).on doc = (.error (.unexpectedSection d.id .resource d.sec), doc) := by
  rw [addResource, if_pos other]
  rfl

theorem declareParameter_on (doc : Document) (id : LogicalId) (spec : ParameterSpec) :
    (declareParameter id spec).on doc =
      doc.outcome (refusal? doc.declarations [.parameter id spec])
        (doc.append [.parameter id spec]) ⟨id⟩ :=
  Drafting.on_then (register_on doc _) rfl

theorem declareResource_on (doc : Document) (id : LogicalId) (kind : String)
    (properties : Entries Value) :
    (declareResource id kind properties).on doc =
      doc.outcome (refusal? doc.declarations [.resource id kind properties])
        (doc.append [.resource id kind properties]) ⟨id⟩ :=
  Drafting.on_then (register_on doc _) rfl

theorem declareOutput_on (doc : Document) (id : LogicalId) (value : Value) :
    (declareOutput id value).on doc =
      doc.outcome (refusal? doc.declarations [.output id value])
        (doc.append [.output id value]) () :=
  Drafting.on_then (register_on doc _) rfl

theorem declareCondition_on (doc : Document) (id : LogicalId) (expression : Value) :
    (declareCondition id expression).on doc =
      doc.outcome (refusal? doc.declarations [.ofCondition id expression])
        (doc.append [.ofCondition id expression]) ⟨id⟩ :=
  Drafting.on_then (register_on doc _) rfl

-- The single rule behind all seven ways to register.
theorem perform_add (doc : Document) (registration : Registration) :
    (perform (.add registration)).on doc =
      doc.outcome (registration.refusal? doc.declarations) (doc.append registration.given)
        registration.receipt := by
  cases registration with
  | single d => exact Drafting.on_then (register_on doc d) rfl
  | batch ds => exact Drafting.on_then (registerAll_on doc ds) rfl
  | builtResource d =>
    by_cases resource : d.sec = .resource
    · rw [Registration.refusal?, if_pos resource]
      exact Drafting.on_then (addResource_on doc resource) rfl
    · rw [Registration.refusal?, if_neg resource]
      exact Drafting.on_bind_error (addResource_misfit doc resource)
  | parameter id spec => exact Drafting.on_then (declareParameter_on doc id spec) rfl
  | resource id kind properties =>
    exact Drafting.on_then (declareResource_on doc id kind properties) rfl
  | output id value => exact Drafting.on_then (declareOutput_on doc id value) rfl
  | condition id expression => exact Drafting.on_then (declareCondition_on doc id expression) rfl

theorem perform_remove (doc : Document) (id : LogicalId) :
    (perform (.remove id)).on doc =
      (.ok (.removed (doc.find? id)),
        { doc with declarations := doc.declarations.eraseP (·.id = id) }) := rfl

structure Sound (doc : Document) : Prop where
  distinct : doc.ids.Nodup
  proper : ∀ id ∈ doc.ids, id.Proper

theorem empty_sound (description formatVersion : String) :
    Sound ⟨description, formatVersion, []⟩ := ⟨by simp [ids], by simp [ids]⟩

theorem ids_append (doc : Document) (added : List Declaration) :
    (doc.append added).ids = doc.ids ++ added.map (·.id) := by simp [ids, append]

theorem append_append (doc : Document) (first second : List Declaration) :
    (doc.append first).append second = doc.append (first ++ second) := by
  simp [append]

theorem append_sound {doc : Document} {batch : List Declaration} (sound : doc.Sound)
    (accepted : refusal? doc.declarations batch = none) : (doc.append batch).Sound := by
  -- The rest of a batch is held against a document that has its first member already.
  induction batch generalizing doc with
  | nil => simpa [append] using sound
  | cons d rest ih =>
    rw [refusal?_cons, Option.or_eq_none_iff, refusal?_single] at accepted
    obtain ⟨⟨valid, fresh⟩, others⟩ := accepted
    have one : (doc.append [d]).Sound := by
      refine ⟨?_, ?_⟩
      · rw [ids_append]
        refine List.nodup_append.mpr ⟨sound.distinct, by simp, ?_⟩
        intro id known given new same
        rw [same, List.mem_singleton.mp new] at known
        exact fresh known
      · intro id member
        rw [ids_append] at member
        rcases List.mem_append.mp member with old | new
        · exact sound.proper id old
        · rw [List.mem_singleton.mp new]
          exact LogicalId.isValid_iff.mp valid
    simpa [append] using ih one others

theorem erase_sound {doc : Document} (sound : doc.Sound) (id : LogicalId) :
    Sound { doc with declarations := doc.declarations.eraseP (·.id = id) } := by
  have kept : (doc.declarations.eraseP (·.id = id)).map (·.id) |>.Sublist doc.ids :=
    List.eraseP_sublist.map _
  exact ⟨sound.distinct.sublist kept, fun id member => sound.proper id (kept.subset member)⟩

theorem find?_eq_some {doc : Document} (sound : doc.Sound) {id : LogicalId} {d : Declaration} :
    doc.find? id = some d ↔ d ∈ doc.declarations ∧ d.id = id := by
  constructor
  · intro found
    exact ⟨List.mem_of_find?_eq_some found, by simpa using List.find?_some found⟩
  · rintro ⟨member, rfl⟩
    cases found : doc.find? d.id with
    | none => exact absurd (List.mem_map_of_mem member) (find?_none.mp found)
    | some other =>
      have same : other.id = d.id := by simpa using List.find?_some found
      rw [List.inj_on_of_nodup_map sound.distinct (List.mem_of_find?_eq_some found) member same]

theorem position?_eq_some {doc : Document} (sound : doc.Sound) {id : LogicalId} {i : Nat} :
    doc.position? id = some i ↔ ∃ d, doc.declarations[i]? = some d ∧ d.id = id := by
  unfold position?
  rw [List.findIdx?_eq_some_iff_getElem]
  constructor
  · rintro ⟨bound, here, _⟩
    exact ⟨_, List.getElem?_eq_getElem bound, by simpa using here⟩
  · rintro ⟨d, stands, rfl⟩
    obtain ⟨bound, rfl⟩ := List.getElem?_eq_some_iff.mp stands
    refine ⟨bound, by simp, ?_⟩
    intro j before
    have apart := List.nodup_iff_getElem?_ne_getElem?.mp sound.distinct j i before
      (by simpa [ids] using bound)
    simpa [ids, List.getElem?_eq_getElem, Nat.lt_trans before bound, bound] using apart

theorem idxOf_eq {doc : Document} (sound : doc.Sound) {i : Nat} {d : Declaration}
    (stands : doc.declarations[i]? = some d) : doc.ids.idxOf d.id = i := by
  obtain ⟨bound, rfl⟩ := List.getElem?_eq_some_iff.mp stands
  have inside : i < doc.ids.length := by simpa [ids] using bound
  have named : doc.ids[i] = (doc.declarations[i]).id := by simp [ids]
  rw [← named]
  exact sound.distinct.idxOf_getElem i inside

end Document

theorem Registration.given_accepted {held : List Declaration} {registration : Registration}
    (accepted : registration.refusal? held = none) :
    StackTemplate.refusal? held registration.given = none := by
  cases registration with
  | builtResource d =>
    by_cases resource : d.sec = .resource
    · simpa [Registration.refusal?, given, resource] using accepted
    · simp [Registration.refusal?, resource] at accepted
  | _ => exact accepted

namespace Document

theorem outcome_sound {α : Type} {doc : Document} {batch : List Declaration}
    {wrong : Option DocumentError} {result : α} (sound : doc.Sound)
    (accepted : wrong = none → refusal? doc.declarations batch = none) :
    (doc.outcome wrong (doc.append batch) result).2.Sound := by
  cases wrong with
  | none => exact append_sound sound (accepted rfl)
  | some e => exact sound

theorem after_sound {doc : Document} (sound : doc.Sound) (op : Operation) :
    (doc.after op).Sound := by
  cases op with
  | add registration =>
    rw [after, perform_add]
    exact outcome_sound sound registration.given_accepted
  | remove id => exact erase_sound sound id

theorem run_sound {doc : Document} (sound : doc.Sound) (ops : List Operation) :
    (doc.run ops).Sound := by
  induction ops generalizing doc with
  | nil => exact sound
  | cons op rest ih => exact ih (after_sound sound op)

-- What operations and registrations of packages can make of an empty document, whether they succeed
-- or not. The parameters and outputs of a network are packages of their own.
inductive Reachable : Document → Prop where
  | empty (description formatVersion : String) : Reachable ⟨description, formatVersion, []⟩
  | operation {doc : Document} (before : Reachable doc) (op : Operation) :
      Reachable (doc.after op)
  | package {doc : Document} (before : Reachable doc) (package : Package) :
      Reachable (package.registerInto.on doc).2
  | addressing {doc : Document} (before : Reachable doc) (addressing : Addressing) :
      Reachable (addressing.registerInto.on doc).2
  | outputs {doc : Document} (before : Reachable doc) (handles : AddressingHandles) :
      Reachable (handles.registerOutputs.on doc).2

-- Packages, networks and the outputs of networks enter a document as one batch each.
theorem package_on (package : Package) (doc : Document) :
    ∃ handles, package.registerInto.on doc =
      doc.outcome (refusal? doc.declarations (package.members.map (·.2)))
        (doc.append (package.members.map (·.2))) handles :=
  ⟨_, Drafting.on_then (registerAll_on doc _) rfl⟩

theorem addressing_on (addressing : Addressing) (doc : Document) :
    ∃ handles, addressing.registerInto.on doc =
      doc.outcome (refusal? doc.declarations addressing.parameters)
        (doc.append addressing.parameters) handles :=
  ⟨_, Drafting.on_then (registerAll_on doc _) rfl⟩

theorem outputs_on (handles : AddressingHandles) (doc : Document) :
    handles.registerOutputs.on doc =
      doc.outcome (refusal? doc.declarations handles.outputs) (doc.append handles.outputs) () :=
  Drafting.on_then (registerAll_on doc _) rfl

theorem Reachable.sound {doc : Document} (reached : doc.Reachable) : doc.Sound := by
  induction reached with
  | empty description formatVersion => exact empty_sound description formatVersion
  | operation before op ih => exact after_sound ih op
  | @package doc before package ih =>
    obtain ⟨_, entered⟩ := package_on package doc
    exact entered ▸ outcome_sound ih id
  | @addressing doc before addressing ih =>
    obtain ⟨_, entered⟩ := addressing_on addressing doc
    exact entered ▸ outcome_sound ih id
  | @outputs doc before handles ih => exact outputs_on handles doc ▸ outcome_sound ih id

theorem Reachable.run {doc : Document} (reached : doc.Reachable) (ops : List Operation) :
    (doc.run ops).Reachable := by
  induction ops generalizing doc with
  | nil => exact reached
  | cons op rest ih => exact ih (reached.operation op)

end Document

end StackTemplate
