import StackTemplate.Proofs.Backing
import StackTemplate.Proofs.Turn

namespace StackTemplate

section
variable (held : List Answer)

-- References in the value are built from what is held; all else is literal or the engine's own.
inductive Value.Handled : Value → Prop where
  | string (text : String) : Handled (.string text)
  | number (n : Number) : Handled (.number n)
  | bool (b : Bool) : Handled (.bool b)
  | list {vs : List Value} (each : ∀ v ∈ vs, Handled v) : Handled (.list vs)
  | map {vs : List (String × Value)} (each : ∀ entry ∈ vs, Handled entry.2) : Handled (.map vs)
  | parameter {handle : ParameterHandle} (given : .parameter handle ∈ held) :
      Handled handle.reference
  | resource {handle : ResourceHandle} (given : .resource handle ∈ held) : Handled handle.reference
  | attributeOf {handle : ResourceHandle} (given : .resource handle ∈ held) (name : String) :
      Handled (handle.attributeOf name)
  | pseudo (parameter : Pseudo) : Handled (.pseudo parameter)
  | join (separator : String) {vs : List Value} (each : ∀ v ∈ vs, Handled v) :
      Handled (.join separator vs)
  | choose {handle : ConditionHandle} (given : .condition handle ∈ held) {a b : Value}
      (whenTrue : Handled a) (whenFalse : Handled b) : Handled (handle.choose a b)
  | equals {a b : Value} (left : Handled a) (right : Handled b) : Handled (.equals a b)
  | base64 {v : Value} (inner : Handled v) : Handled (.base64 v)

structure Declaration.Handled (d : Declaration) : Prop where
  attributes : ∀ entry ∈ d.attributes, entry.2.Handled held
  updatePolicy : ∀ policy, d.updatePolicy = some policy → policy.Handled held
  dependsOn : ∀ id ∈ d.dependsOn, .resource ⟨id⟩ ∈ held
  condition : ∀ name, d.condition = some name → .condition ⟨name⟩ ∈ held

-- The calls that hand out handles, and the one for outputs, given nothing but what is handled.
def Registration.Handled : Registration → Prop
  | .parameter _ spec => ∀ entry ∈ spec.attributes, entry.2.Handled held
  | .resource _ _ properties => ∀ entry ∈ properties, entry.2.Handled held
  | .output _ value => value.Handled held
  | .condition _ expression => expression.Handled held
  | .builtResource d => d.Handled held
  | .single _ => False
  | .batch _ => False

end

-- A document in the making, with what the calls that succeeded have returned.
structure Session where
  document : Document
  held : List Answer := []

namespace Session

def call (s : Session) (registration : Registration) : Session :=
  match (Document.perform (.add registration)).on s.document with
  | (.ok answer, next) => ⟨next, s.held ++ [answer]⟩
  | (.error _, next) => { s with document := next }

def run (s : Session) (calls : List Registration) : Session := calls.foldl call s

-- Every call uses what is held when it is made. What a call that fails was given does not matter.
def Disciplined : Session → List Registration → Prop
  | _, [] => True
  | s, registration :: rest =>
    (((Document.perform (.add registration)).on s.document).1.isOk → registration.Handled s.held) ∧
      (s.call registration).Disciplined rest

end Session

def Answer.Backed (known : List Use) : Answer → Prop
  | .parameter handle => ⟨handle.id, .parameter⟩ ∈ known
  | .resource handle => ⟨handle.id, .resource⟩ ∈ known
  | .condition handle => ⟨handle.id, .condition⟩ ∈ known
  | _ => True

theorem Answer.Backed.mono {answer : Answer} {known more : List Use} (backed : answer.Backed known)
    (wider : known ⊆ more) : answer.Backed more := by
  cases answer with
  | parameter handle => exact wider backed
  | resource handle => exact wider backed
  | condition handle => exact wider backed
  | _ => trivial

section
variable {held : List Answer} {known : List Use}

theorem Value.Handled.backed (backed : ∀ answer ∈ held, answer.Backed known) {v : Value}
    (handled : v.Handled held) : ∀ edge ∈ v.edges, edge.Backed known := by
  have named {kind : ReferenceKind} {sec : Section} {id : LogicalId} (allowed : sec ∈ kind.allowed)
      (member : ⟨id, sec⟩ ∈ known) : ∀ edge ∈ [(⟨kind, id⟩ : Edge)], edge.Backed known := by
    intro edge single
    rw [List.mem_singleton.mp single]
    exact ⟨sec, allowed, member⟩
  induction handled with
  | string _ => exact nofun
  | number _ => exact nofun
  | bool _ => exact nofun
  | pseudo _ => exact nofun
  | list _ ih =>
    rw [edges, itemEdges_eq]
    exact List.forall_mem_flatMap.mpr ih
  | map _ ih =>
    rw [edges, entryEdges_eq]
    exact List.forall_mem_flatMap.mpr ih
  | parameter given => exact named (by decide) (backed _ given)
  | resource given => exact named (by decide) (backed _ given)
  | attributeOf given name => exact named (by decide) (backed _ given)
  | join separator _ ih =>
    rw [edges, itemEdges_eq]
    exact List.forall_mem_flatMap.mpr ih
  | @choose handle given a b _ _ ihA ihB =>
    have own : ∀ edge ∈ [(⟨.choose, handle.id⟩ : Edge)], edge.Backed known :=
      named (by decide) (backed _ given)
    exact List.forall_mem_append.mpr ⟨own, List.forall_mem_append.mpr ⟨ihA, ihB⟩⟩
  | equals _ _ ihA ihB =>
    rw [edges]
    exact List.forall_mem_append.mpr ⟨ihA, ihB⟩
  | base64 _ ih => exact ih

theorem Declaration.Handled.backed (backed : ∀ answer ∈ held, answer.Backed known) {d : Declaration}
    (handled : d.Handled held) : ∀ edge ∈ d.edges, edge.Backed known := by
  intro edge member
  rcases Declaration.mem_edges.mp member with valued | ⟨name, given, rfl⟩ | ⟨target, given, rfl⟩
  · rcases List.mem_append.mp valued with written | policy
    · rw [Value.entryEdges_eq] at written
      obtain ⟨entry, given, inside⟩ := List.mem_flatMap.mp written
      exact (handled.attributes entry given).backed backed edge inside
    · cases given : d.updatePolicy with
      | none => simp [given] at policy
      | some v =>
        rw [given] at policy
        exact (handled.updatePolicy v given).backed backed edge policy
  · exact ⟨.condition, List.mem_singleton_self _, backed _ (handled.condition name given)⟩
  · exact ⟨.resource, List.mem_singleton_self _, backed _ (handled.dependsOn target given)⟩

theorem Registration.fits_of_accepted {declared : List Declaration} {registration : Registration}
    (accepted : registration.refusal? declared = none) : registration.Fits := by
  cases registration with
  | builtResource d =>
    by_contra other
    simp [Registration.refusal?, show d.sec ≠ .resource from other] at accepted
  | _ => trivial

theorem Declaration.Handled.of_attributes {d : Declaration}
    (attributes : ∀ entry ∈ d.attributes, entry.2.Handled held) (policy : d.updatePolicy = none)
    (asks : d.dependsOn = []) (condition : d.condition = none) : d.Handled held where
  attributes := attributes
  updatePolicy := by simp [policy]
  dependsOn := by simp [asks]
  condition := by simp [condition]

-- What is added is handled as a whole and has a shape that its section knows.
theorem Registration.Handled.given {registration : Registration} (handled : registration.Handled held)
    (fits : registration.Fits) :
    ∃ d, registration.given = [d] ∧ d.misplaced? = none ∧ d.Handled held := by
  cases registration with
  | single d => exact handled.elim
  | batch ds => exact handled.elim
  | builtResource d =>
    have resource : d.sec = .resource := fits
    exact ⟨d, rfl, by simp [Declaration.misplaced?, resource], handled⟩
  | parameter id spec => exact ⟨_, rfl, rfl, .of_attributes handled rfl rfl rfl⟩
  | resource id kind properties => exact ⟨_, rfl, rfl, .of_attributes handled rfl rfl rfl⟩
  | output id value =>
    exact ⟨_, rfl, rfl, .of_attributes (List.forall_mem_singleton.mpr handled) rfl rfl rfl⟩
  | condition id expression =>
    exact ⟨_, rfl, rfl, .of_attributes (List.forall_mem_singleton.mpr handled) rfl rfl rfl⟩

-- What a call returns allows to refer to what it added.
theorem Registration.receipt_backed {registration : Registration} (fits : registration.Fits) :
    registration.receipt.Backed (registration.given.map (·.offer)) := by
  cases registration with
  | single d => trivial
  | batch ds => trivial
  | builtResource d =>
    have resource : d.sec = .resource := fits
    exact List.mem_singleton.mpr (congrArg (Use.mk d.id) resource.symm)
  | parameter id spec => exact List.mem_singleton_self _
  | resource id kind properties => exact List.mem_singleton_self _
  | output id value => trivial
  | condition id expression => exact List.mem_singleton_self _

end

namespace Session

-- What every session comes back to: names are distinct, each declaration has its shape and names
-- only what stands before it, and what is held stands in the document.
structure Settled (s : Session) : Prop where
  sound : s.document.Sound
  ordered : ∀ before d rest, s.document.declarations = before ++ d :: rest →
    d.misplaced? = none ∧ ∀ edge ∈ d.edges, edge.Backed (before.map (·.offer))
  held : ∀ answer ∈ s.held, answer.Backed (s.document.declarations.map (·.offer))

theorem call_document (s : Session) (registration : Registration) :
    (s.call registration).document = s.document.after (.add registration) := by
  unfold call Document.after
  rcases (Document.perform (.add registration)).on s.document with ⟨answer | e, next⟩ <;> rfl

theorem run_document (s : Session) (calls : List Registration) :
    (s.run calls).document = s.document.run (calls.map .add) := by
  induction calls generalizing s with
  | nil => rfl
  | cons registration rest ih =>
    have later := ih (s.call registration)
    rw [call_document] at later
    exact later

theorem call_settled {s : Session} {registration : Registration} (settled : s.Settled)
    (handled : ((Document.perform (.add registration)).on s.document).1.isOk →
      registration.Handled s.held) : (s.call registration).Settled := by
  rw [call, Document.perform_add]
  rw [Document.perform_add] at handled
  cases accepted : registration.refusal? s.document.declarations with
  | some e => exact settled
  | none =>
    have fits := Registration.fits_of_accepted accepted
    have receipt := Registration.receipt_backed fits
    obtain ⟨d, given, shape, whole⟩ := (handled (by rw [accepted]; rfl)).given fits
    have clear := registration.given_accepted accepted
    rw [given] at clear receipt ⊢
    refine ⟨Document.append_sound settled.sound clear, ?_, ?_⟩
    · intro before other rest split
      have split : s.document.declarations ++ [d] = before ++ other :: rest := split
      rcases List.eq_nil_or_concat rest with rfl | ⟨front, last, rfl⟩
      · obtain ⟨rfl, same⟩ := List.append_inj' split rfl
        cases same
        exact ⟨shape, whole.backed settled.held⟩
      · have earlier : s.document.declarations ++ [d] = (before ++ other :: front) ++ [last] := by
          simpa using split
        exact settled.ordered before other front (List.append_inj' earlier rfl).1
    · have names : (s.document.append [d]).declarations.map (·.offer) =
          s.document.declarations.map (·.offer) ++ [d].map (·.offer) := List.map_append
      rw [Document.outcome, names]
      refine List.forall_mem_append.mpr ⟨fun answer old => ?_, List.forall_mem_singleton.mpr ?_⟩
      · exact (settled.held answer old).mono (List.subset_append_left _ _)
      · exact receipt.mono (List.subset_append_right _ _)

theorem run_settled {s : Session} (settled : s.Settled) {calls : List Registration}
    (disciplined : s.Disciplined calls) : (s.run calls).Settled := by
  induction calls generalizing s with
  | nil => exact settled
  | cons registration rest ih => exact ih (call_settled settled disciplined.1) disciplined.2

end Session

namespace Document

-- A document written by handles only resolves, as long as nobody asks what is left unused.
theorem resolve_disciplined (description formatVersion : String) {calls : List Registration}
    (disciplined : Session.Disciplined ⟨⟨description, formatVersion, []⟩, []⟩ calls) :
    let doc := Document.run ⟨description, formatVersion, []⟩ (calls.map .add)
    doc.resolve ⟨.allow, .allow⟩ = .ok (doc.image []) := by
  intro doc
  have settled := Session.run_settled (s := ⟨⟨description, formatVersion, []⟩, []⟩)
    ⟨empty_sound _ _, by simp, by simp⟩ disciplined
  have made : (Session.run ⟨⟨description, formatVersion, []⟩, []⟩ calls).document = doc :=
    Session.run_document _ calls
  rw [← made, resolve_allow settled.sound, ordered_clear settled.sound settled.ordered]
  rfl

-- The fourth call fails, because the name is taken.
def scripted : List Registration :=
  let size : ParameterHandle := ⟨"size"⟩
  let large : ConditionHandle := ⟨"Large"⟩
  let role : ResourceHandle := ⟨"Role"⟩
  let server : ResourceHandle := ⟨"Server"⟩
  [ .parameter size.id .string,
    .condition large.id (.equals size.reference "xl"),
    .resource role.id "AWS::IAM::Role" [],
    .resource role.id "AWS::IAM::Role" [("Path", .ref "nobody")],
    .builtResource (((Declaration.resource server.id "AWS::EC2::Instance"
      [("Profile", large.choose (role.attributeOf "Arn") (.pseudo .noValue))]).after
      role.id).onlyIf large.id),
    .output "Where" (.base64 (.join "-" [.list [server.reference], .pseudo .region])) ]

theorem scripted_resolves :
    Session.Disciplined ⟨.new "test", []⟩ scripted ∧
    ((Document.new "test").run (scripted.map .add)).ids = ["size", "Large", "Role", "Server", "Where"] ∧
    ((Document.new "test").run (scripted.map .add)).resolve ⟨.allow, .allow⟩ =
      .ok (((Document.new "test").run (scripted.map .add)).image []) := by
  have disciplined : Session.Disciplined ⟨.new "test", []⟩ scripted := by
    refine ⟨fun _ => nofun, fun _ => ?_, fun _ => nofun, fun accepted => ?_, fun _ => ?_, fun _ => ?_,
      trivial⟩
    · exact .equals (.parameter (List.mem_singleton_self _)) (.string "xl")
    · exact absurd accepted (by decide)
    · change Declaration.Handled [.parameter ⟨"size"⟩, .condition ⟨"Large"⟩, .resource ⟨"Role"⟩] _
      refine ⟨List.forall_mem_singleton.mpr ?_, nofun, List.forall_mem_singleton.mpr (by simp), ?_⟩
      · exact .choose (by simp) (.attributeOf (by simp) "Arn") (.pseudo .noValue)
      · intro name same
        cases same
        simp
    · change Value.Handled
        [.parameter ⟨"size"⟩, .condition ⟨"Large"⟩, .resource ⟨"Role"⟩, .resource ⟨"Server"⟩] _
      have server : Value.Handled [.parameter ⟨"size"⟩, .condition ⟨"Large"⟩, .resource ⟨"Role"⟩,
          .resource ⟨"Server"⟩] (ResourceHandle.reference ⟨"Server"⟩) := .resource (by simp)
      exact .base64 (.join "-" (List.forall_mem_cons.mpr ⟨.list (List.forall_mem_singleton.mpr server),
        List.forall_mem_singleton.mpr (.pseudo .region)⟩))
  exact ⟨disciplined, by decide, resolve_disciplined "test" "2010-09-09" disciplined⟩

end Document

end StackTemplate
