import Mathlib.Control.Basic
import StackTemplate.Document

namespace StackTemplate

-- A check decides whether a result is given out, never which.
def settle {α ε : Type} (wrong : Option ε) (result : α) : Except ε α :=
  match wrong with
  | none => .ok result
  | some e => .error e

section
variable {α β ε : Type} {wrong also : Option ε} {e : ε} {result : α} {last : β}

@[simp] theorem settle_none : settle (none : Option ε) result = .ok result := rfl
@[simp] theorem settle_some : settle (some e) result = .error e := rfl

theorem settle_ok {other : α} :
    settle wrong result = .ok other ↔ wrong = none ∧ result = other := by
  cases wrong <;> simp [settle]

theorem settle_error : settle wrong result = .error e ↔ wrong = some e := by
  cases wrong <;> simp [settle]

theorem settle_bind {next : α → Except ε β} (then_settled : next result = settle also last) :
    settle wrong result >>= next = settle (wrong.or also) last := by
  cases wrong with
  | none => exact then_settled
  | some e => rfl

theorem settle_then {next : α → Except ε β} (then_ok : next result = .ok last) :
    settle wrong result >>= next = settle wrong last := by
  cases wrong with
  | none => exact then_ok
  | some e => rfl

end

section
variable {α β ε δ : Type} {first : Except ε α} {next : α → Except ε β}

@[simp] theorem ok_bind (value : α) : Except.ok value >>= next = next value := rfl
@[simp] theorem error_bind (e : ε) : Except.error e >>= next = .error e := rfl
@[simp] theorem pure_ok (value : α) : (pure value : Except ε α) = .ok value := rfl
@[simp] theorem throw_error (e : ε) : (throw e : Except ε α) = .error e := rfl

-- Stages in a row succeed exactly if each of them does.
theorem bind_ok {result : β} :
    first >>= next = .ok result ↔ ∃ value, first = .ok value ∧ next value = .ok result := by
  cases first <;> simp

theorem map_ok {f : α → β} {result : β} :
    first.map f = .ok result ↔ ∃ value, first = .ok value ∧ f value = result := by
  cases first <;> simp [Except.map]

theorem mapError_ok {f : ε → δ} {value : α} : first.mapError f = .ok value ↔ first = .ok value := by
  cases first <;> simp [Except.mapError]

end

-- How work that is refused as a whole or done as a whole leaves a document.
def Document.outcome {α : Type} (doc : Document) (wrong : Option DocumentError) (next : Document)
    (result : α) : Except DocumentError α × Document :=
  match wrong with
  | none => (.ok result, next)
  | some e => (.error e, doc)

section
variable {α : Type} {doc next last : Document} {wrong : Option DocumentError} {result other : α}

theorem Document.outcome_ok : doc.outcome wrong next result = (.ok other, last) ↔
    wrong = none ∧ next = last ∧ result = other := by
  cases wrong <;> simp [outcome, and_comm]

theorem Document.outcome_error {e : DocumentError} :
    doc.outcome wrong next result = (.error e, last) ↔ wrong = some e ∧ doc = last := by
  cases wrong <;> simp [outcome]

end

namespace Drafting
variable {α β : Type} {doc middle : Document} {work : Drafting α} {next : α → Drafting β}

theorem on_pure (a : α) : (pure a : Drafting α).on doc = (.ok a, doc) := rfl

theorem on_get (look : Document → Drafting α) : (get >>= look).on doc = (look doc).on doc := rfl

theorem on_bind_ok {a : α} (ran : work.on doc = (.ok a, middle)) :
    (work >>= next).on doc = (next a).on middle := by
  simp only [on, ExceptT.run_bind, StateT.run_bind, Id.run_bind] at ran ⊢
  rw [ran]

theorem on_bind_error {e : DocumentError} (ran : work.on doc = (.error e, middle)) :
    (work >>= next).on doc = (.error e, middle) := by
  simp only [on, ExceptT.run_bind, StateT.run_bind, Id.run_bind] at ran ⊢
  rw [ran]
  rfl

-- A check reads the document and cannot change it, so what it refuses has changed nothing.
theorem on_checked {wrong : Option DocumentError} {b : β} {last : Document} {rest : Drafting β}
    (done : wrong = none → rest.on doc = (.ok b, last)) :
    ((liftM (settle wrong ()) : Drafting Unit) >>= fun _ => rest).on doc =
      doc.outcome wrong last b := by
  cases wrong with
  | none => exact done rfl
  | some e => rfl

-- What follows a refusal is not done, and here it does no more to the document.
theorem on_then {wrong : Option DocumentError} {a : α} {b : β}
    (ran : work.on doc = doc.outcome wrong middle a)
    (silent : (next a).on middle = (.ok b, middle)) :
    (work >>= next).on doc = doc.outcome wrong middle b := by
  cases wrong with
  | none => rw [on_bind_ok ran, silent]; rfl
  | some e => rw [on_bind_error ran]; rfl

end Drafting

end StackTemplate
