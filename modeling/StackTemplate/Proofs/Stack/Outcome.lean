import StackTemplate.Proofs.Stack.Clusters
import StackTemplate.Proofs.Stack.Vpc

namespace StackTemplate

namespace Lambda

theorem draft_registers (settings : Settings) :
    Registers (draft settings) (draft .unzoned).made () := by
  have same : draft settings = draft .unzoned := rfl
  rw [same]
  exact .of_eq (.bind (.parameter _ _) <| .bind (.parameter _ _) <| .bind (.resource _ _ _) <|
    .bind (.resource _ _ _) <| .bind (.builtResource rfl) <| .output _ _) (by rfl)

theorem complete : Complete [] (draft .unzoned).made := by
  have checked : Checked [] (draft .unzoned).made := by decide +kernel
  have same : Grown [] [] [] (draft .unzoned).made (draft .unzoned).made :=
    (Grown.done []).followed _
  exact same.complete checked nofun .nil nofun nofun nofun

end Lambda

namespace Stack

def declarations (stack : Stack) (settings : Settings) : List Declaration :=
  match stack with
  | .vpc => Vpc.declarations settings
  | .consul => Consul.layout.declarations settings
  | .lambda => (Lambda.draft .unzoned).made
  | .gateway => Gateway.layout.declarations settings
  | .cms => Cms.layout.declarations settings
  | .vault => Vault.layout.declarations settings
  | .rdsBackup => RdsBackup.layout.declarations settings

theorem draft_registers (stack : Stack) (settings : Settings) :
    Registers (stack.draft settings) (stack.declarations settings) () := by
  cases stack with
  | vpc => exact Vpc.draft_registers settings
  | consul => exact Consul.draft_registers settings
  | lambda => exact Lambda.draft_registers settings
  | gateway => exact Gateway.draft_registers settings
  | cms => exact Cms.draft_registers settings
  | vault => exact Vault.draft_registers settings
  | rdsBackup => exact RdsBackup.draft_registers settings

-- The parameters that a stack takes and does not use.
def spare : Stack → List LogicalId
  | .vpc | .lambda => []
  | .cms => ["certPublicKey", "vpcId"]
  | .consul | .gateway | .vault | .rdsBackup => ["vpcId"]

theorem complete (stack : Stack) (settings : Settings) :
    Complete stack.spare (stack.declarations settings) := by
  cases stack with
  | vpc => exact Vpc.complete settings
  | consul => exact Consul.spreads.complete settings Consul.checked
  | lambda => exact Lambda.complete
  | gateway => exact Gateway.spreads.complete settings Gateway.checked
  | cms => exact Cms.spreads.complete settings Cms.checked
  | vault => exact Vault.spreads.complete settings Vault.checked
  | rdsBackup => exact RdsBackup.spreads.complete settings RdsBackup.checked

-- The list is complete, so an empty document takes all of it.
theorem build_eq (stack : Stack) (settings : Settings) :
    stack.build settings =
      .ok ((Document.new stack.description).append (stack.declarations settings)) := by
  rw [build, stack.draft_registers settings _ (stack.complete settings).accepted]

-- Every stack is built. What is spare is passed over, reported in order or an error, as the
-- settings say; nothing else can go wrong.
theorem build_assembles (stack : Stack) (settings : Settings) :
    ∃ doc, stack.build settings = .ok doc ∧
      match settings.lint.unusedParameters with
      | .allow => ∃ template, doc.assemble settings.assembly = .ok ⟨template, []⟩
      | .warn => ∃ template, doc.assemble settings.assembly =
          .ok ⟨template, stack.spare.map (⟨.unusedParameter, ·⟩)⟩
      | .deny =>
        if stack.spare = [] then ∃ template, doc.assemble settings.assembly = .ok ⟨template, []⟩
        else doc.assemble settings.assembly =
          .error (.document (.unusedDeclarations .parameter stack.spare)) := by
  refine ⟨_, stack.build_eq settings, ?_⟩
  obtain ⟨template, outcome⟩ :=
    (stack.complete settings).assemble stack.description settings.assembly
  have level : settings.assembly.lint.unusedParameters = settings.lint.unusedParameters := rfl
  rw [level] at outcome
  cases given : settings.lint.unusedParameters with
  | allow => exact ⟨template, by rw [outcome, given]; rfl⟩
  | warn => exact ⟨template, by rw [outcome, given]; rfl⟩
  | deny =>
    rw [outcome, given]
    dsimp only [leftOverVerdict]
    cases stack.spare with
    | nil => exact ⟨template, rfl⟩
    | cons id rest => rfl

end Stack

end StackTemplate
