import StackTemplate.Proofs.Registry
import StackTemplate.Resolution

namespace StackTemplate

-- What is added to a list by going over others is what it lacks, each in the place where it is
-- first met.
theorem extendListed_eq (listed ids : List LogicalId) :
    extendListed listed ids = listed ++ (ids.filter (· ∉ listed)).eraseDups := by
  induction ids generalizing listed with
  | nil => simp [extendListed]
  | cons id rest ih =>
    rw [extendListed, ih]
    by_cases known : id ∈ listed
    · simp [known]
    · rw [if_neg known, filter_unlisted, List.filter_cons_of_pos (by simpa using known),
        List.eraseDups_cons, List.append_assoc, List.singleton_append]

theorem extendListed_nodup {listed : List LogicalId} (distinct : listed.Nodup)
    (ids : List LogicalId) : (extendListed listed ids).Nodup := by
  induction ids generalizing listed with
  | nil => exact distinct
  | cons id rest ih =>
    rw [extendListed]
    split
    · exact ih distinct
    · rename_i fresh
      refine ih (List.nodup_append.mpr ⟨distinct, List.nodup_singleton id, ?_⟩)
      intro old known new given same
      rw [same, List.mem_singleton.mp given] at known
      exact fresh known

namespace Declaration

-- What a declaration is before any call.
inductive Blank where
  | parameter (id : LogicalId) (spec : ParameterSpec)
  | resource (id : LogicalId) (kind : String) (properties : Entries Value)
  | output (id : LogicalId) (value : Value)
  | condition (id : LogicalId) (expression : Value)

inductive Call where
  | attribute (key : String) (value : Value)
  | describe (text : String)
  | publish (name : Value)
  | after (id : LogicalId)
  | onlyIf (condition : LogicalId)
  | updatePolicy (policy : Value)
  | deletionPolicy (policy : DeletionPolicy)

def Blank.declaration : Blank → Declaration
  | .parameter id spec => .parameter id spec
  | .resource id kind properties => .resource id kind properties
  | .output id value => .output id value
  | .condition id expression => .ofCondition id expression

def call (d : Declaration) : Call → Declaration
  | .attribute key value => d.setAttribute key value
  | .describe text => d.describe text
  | .publish name => d.publish name
  | .after id => d.after id
  | .onlyIf condition => d.onlyIf condition
  | .updatePolicy policy => d.withUpdatePolicy policy
  | .deletionPolicy policy => d.withDeletionPolicy policy

def Call.asked? : Call → Option LogicalId
  | .after id => some id
  | _ => none

def asked (calls : List Call) : List LogicalId := calls.filterMap Call.asked?

def BuiltBy (d : Declaration) (calls : List Call) : Prop :=
  ∃ blank : Blank, d = calls.foldl call blank.declaration

def Built (d : Declaration) : Prop := ∃ calls, d.BuiltBy calls

theorem Blank.built (blank : Blank) : blank.declaration.Built := ⟨[], blank, rfl⟩

theorem calls_dependsOn (calls : List Call) (d : Declaration) :
    (calls.foldl call d).dependsOn = extendListed d.dependsOn (asked calls) := by
  induction calls generalizing d with
  | nil => rfl
  | cons first rest ih =>
    rw [List.foldl_cons, ih]
    cases first with
    | after id =>
      have once : (d.call (.after id)).dependsOn =
          if id ∈ d.dependsOn then d.dependsOn else d.dependsOn ++ [id] := by
        rw [call, after]
        split <;> rfl
      rw [once]
      rfl
    | _ => rfl

-- A blank asks for nothing, so all that a declaration asks for was asked by a call.
theorem BuiltBy.dependsOn_listed {d : Declaration} {calls : List Call} (built : d.BuiltBy calls) :
    d.dependsOn = extendListed [] (asked calls) := by
  obtain ⟨blank, rfl⟩ := built
  have nothing : blank.declaration.dependsOn = [] := by cases blank <;> rfl
  rw [calls_dependsOn, nothing]

theorem BuiltBy.dependsOn_eq {d : Declaration} {calls : List Call} (built : d.BuiltBy calls) :
    d.dependsOn = (asked calls).eraseDups := by
  rw [built.dependsOn_listed, extendListed_eq]
  simp

theorem BuiltBy.dependsOn_nodup {d : Declaration} {calls : List Call} (built : d.BuiltBy calls) :
    d.dependsOn.Nodup := by
  rw [built.dependsOn_listed]
  exact extendListed_nodup List.nodup_nil _

end Declaration

def Operation.Built : Operation → Prop
  | .add registration => ∀ d ∈ registration.given, d.Built
  | .remove _ => True

namespace Document

-- A document to which nothing but declarations built by calls was given, taken or refused. Networks
-- build their own.
inductive Authored : Document → Prop where
  | empty (description formatVersion : String) : Authored ⟨description, formatVersion, []⟩
  | operation {doc : Document} {op : Operation} (before : Authored doc) (built : op.Built) :
      Authored (doc.after op)
  | package {doc : Document} {package : Package} (before : Authored doc)
      (built : ∀ member ∈ package.members, member.2.Built) :
      Authored (package.registerInto.on doc).2
  | addressing {doc : Document} (before : Authored doc) (addressing : Addressing) :
      Authored (addressing.registerInto.on doc).2
  | outputs {doc : Document} (before : Authored doc) (handles : AddressingHandles) :
      Authored (handles.registerOutputs.on doc).2

theorem Authored.reachable {doc : Document} (authored : doc.Authored) : doc.Reachable := by
  induction authored with
  | empty description formatVersion => exact .empty description formatVersion
  | @operation doc op _ _ ih => exact .operation ih op
  | @package doc package _ _ ih => exact .package ih package
  | addressing _ addressing ih => exact .addressing ih addressing
  | outputs _ handles ih => exact .outputs ih handles

theorem outcome_built {α : Type} {doc : Document} {batch : List Declaration}
    {wrong : Option DocumentError} {result : α} (held : ∀ d ∈ doc.declarations, d.Built)
    (given : ∀ d ∈ batch, d.Built) :
    ∀ d ∈ (doc.outcome wrong (doc.append batch) result).2.declarations, d.Built := by
  cases wrong with
  | none => exact List.forall_mem_append.mpr ⟨held, given⟩
  | some e => exact held

theorem after_built {doc : Document} {op : Operation} (held : ∀ d ∈ doc.declarations, d.Built)
    (built : op.Built) : ∀ d ∈ (doc.after op).declarations, d.Built := by
  cases op with
  | add registration =>
    rw [after, perform_add]
    exact outcome_built held built
  | remove id => exact fun d member => held d (List.eraseP_sublist.subset member)

theorem addressing_built (addressing : Addressing) : ∀ d ∈ addressing.parameters, d.Built := by
  intro d member
  rcases List.mem_append.mp member with own | zone
  · simp only [List.mem_cons, List.not_mem_nil, or_false] at own
    rcases own with rfl | rfl | rfl <;> exact (Declaration.Blank.parameter _ _).built
  · obtain ⟨⟨block, index⟩, _, rfl⟩ := List.mem_map.mp zone
    exact (Declaration.Blank.parameter _ _).built

theorem outputs_built (handles : AddressingHandles) : ∀ d ∈ handles.outputs, d.Built := by
  intro d member
  obtain ⟨⟨block, index⟩, _, rfl⟩ := List.mem_map.mp member
  exact ⟨[.describe _], .output _ _, rfl⟩

theorem Authored.built {doc : Document} (authored : doc.Authored) :
    ∀ d ∈ doc.declarations, d.Built := by
  induction authored with
  | empty => simp
  | operation _ built ih => exact after_built ih built
  | @package doc package _ built ih =>
    obtain ⟨_, entered⟩ := package_on package doc
    exact entered ▸ outcome_built ih (List.forall_mem_map.mpr built)
  | @addressing doc _ addressing ih =>
    obtain ⟨_, entered⟩ := addressing_on addressing doc
    exact entered ▸ outcome_built ih (addressing_built addressing)
  | @outputs doc _ handles ih => exact outputs_on handles doc ▸ outcome_built ih (outputs_built handles)

theorem Authored.run {doc : Document} (authored : doc.Authored) {ops : List Operation}
    (built : ∀ op ∈ ops, op.Built) : (doc.run ops).Authored := by
  induction ops generalizing doc with
  | nil => exact authored
  | cons op rest ih =>
    obtain ⟨first, others⟩ := List.forall_mem_cons.mp built
    exact ih (authored.operation first) others

end Document

end StackTemplate
