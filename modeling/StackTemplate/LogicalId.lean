namespace StackTemplate

-- A reference may name any text at all; whether the text is a proper name is
-- asked only when a declaration is registered under it.
structure LogicalId where
  text : String
  deriving DecidableEq, Repr, Inhabited

instance : Coe String LogicalId := ⟨LogicalId.mk⟩

namespace LogicalId

def isValid (id : LogicalId) : Bool :=
  !id.text.toList.isEmpty && id.text.toList.all Char.isAlphanum

theorem isAlphanum_iff {c : Char} : c.isAlphanum = true ↔
    ('0' ≤ c ∧ c ≤ '9') ∨ ('A' ≤ c ∧ c ≤ 'Z') ∨ ('a' ≤ c ∧ c ≤ 'z') := by
  have alphabetic : c.isAlpha = true ↔ ('A' ≤ c ∧ c ≤ 'Z') ∨ ('a' ≤ c ∧ c ≤ 'z') := by
    delta Char.isAlpha Char.isUpper Char.isLower
    simp only [Bool.or_eq_true, Bool.and_eq_true, decide_eq_true_eq]
    rfl
  have numeric : c.isDigit = true ↔ '0' ≤ c ∧ c ≤ '9' := by
    simp [Char.isDigit, Char.le_def]
  rw [Char.isAlphanum, Bool.or_eq_true, alphabetic, numeric]
  exact or_comm

end LogicalId

end StackTemplate
