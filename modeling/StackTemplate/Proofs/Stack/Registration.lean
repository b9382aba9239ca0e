import StackTemplate.Proofs.Addressing
import StackTemplate.Tagging

namespace StackTemplate

-- The work puts the declarations at the end of every document that can take them, and comes back
-- with the result.
def Registers {α : Type} (work : Drafting α) (ds : List Declaration) (result : α) : Prop :=
  ∀ doc : Document, refusal? doc.declarations ds = none →
    work.on doc = (.ok result, doc.append ds)

namespace Registers
open Document
variable {α β : Type} {work : Drafting α} {next : α → Drafting β} {ds es : List Declaration}
  {a : α} {b : β}

theorem done (a : α) : Registers (pure a) [] a := by
  intro doc _
  rw [Drafting.on_pure, append, List.append_nil]

-- What comes later goes into a document that holds what came before.
theorem bind (first : Registers work ds a) (others : Registers (next a) es b) :
    Registers (work >>= next) (ds ++ es) b := by
  intro doc accepted
  rw [refusal?_append, Option.or_eq_none_iff] at accepted
  rw [Drafting.on_bind_ok (first doc accepted.1), others (doc.append ds) accepted.2, append_append]

theorem of_eq (registers : Registers work es a) (same : ds = es) : Registers work ds a :=
  same ▸ registers

-- What enters whole or not at all enters where it can.
theorem of_outcome (whole : ∀ doc : Document, work.on doc =
    doc.outcome (refusal? doc.declarations ds) (doc.append ds) a) : Registers work ds a := by
  intro doc accepted
  rw [whole, accepted]
  rfl

theorem register (d : Declaration) : Registers (register d) [d] d.id :=
  .of_outcome fun doc => register_on doc d

theorem registerAll (batch : List Declaration) :
    Registers (registerAll batch) batch (batch.map (·.id)) :=
  .of_outcome fun doc => registerAll_on doc batch

theorem parameter (id : LogicalId) (spec : ParameterSpec) :
    Registers (declareParameter id spec) [.parameter id spec] ⟨id⟩ :=
  .of_outcome fun doc => declareParameter_on doc id spec

theorem resource (id : LogicalId) (kind : String) (properties : Entries Value) :
    Registers (declareResource id kind properties) [.resource id kind properties] ⟨id⟩ :=
  .of_outcome fun doc => declareResource_on doc id kind properties

theorem builtResource {d : Declaration} (resource : d.sec = .resource) :
    Registers (addResource d) [d] ⟨d.id⟩ :=
  .of_outcome fun doc => addResource_on doc resource

theorem output (id : LogicalId) (value : Value) :
    Registers (declareOutput id value) [.output id value] () :=
  .of_outcome fun doc => declareOutput_on doc id value

theorem condition (id : LogicalId) (expression : Value) :
    Registers (declareCondition id expression) [.ofCondition id expression] ⟨id⟩ :=
  .of_outcome fun doc => declareCondition_on doc id expression

theorem mapM {ι : Type} {f : ι → Drafting α} {made : ι → List Declaration} {result : ι → α}
    (each : ∀ i, Registers (f i) (made i) (result i)) (is : List ι) :
    Registers (is.mapM f) (is.flatMap made) (is.map result) := by
  induction is with
  | nil =>
    rw [List.mapM_nil]
    exact .done []
  | cons i rest ih =>
    rw [List.mapM_cons, List.flatMap_cons]
    exact (each i).bind (.of_eq (ih.bind (.done _)) (List.append_nil _).symm)

theorem forM {ι : Type} {f : ι → Drafting Unit} {made : ι → List Declaration}
    (each : ∀ i, Registers (f i) (made i) ()) (is : List ι) :
    Registers (is.forM f) (is.flatMap made) () := by
  induction is with
  | nil => exact .done ()
  | cons i rest ih => exact (each i).bind ih

end Registers

-- What the work makes of an empty document. Where no zone is concerned it can be evaluated.
def Drafting.made {α : Type} (work : Drafting α) : List Declaration :=
  (work.on (.new "")).2.declarations

namespace Tagging

def handles : TagHandles := ⟨nameId, emailId, classificationId, costcenterId⟩

theorem registers (tagging : Tagging) :
    Registers tagging.registerInto tagging.parameters handles :=
  .of_eq (.bind (.bind (.registerAll _) (.done _)) (.done _)) rfl

end Tagging

namespace Addressing

theorem registers (addressing : Addressing) :
    Registers addressing.registerInto addressing.parameters addressing.handles :=
  .of_outcome addressing.registerInto_on

end Addressing

end StackTemplate
