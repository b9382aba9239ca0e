import Mathlib.Data.List.Nodup
import StackTemplate.Addressing

namespace StackTemplate

namespace LogicalId

-- The text as it is stored. Evaluation reads the bytes of a literal with far less work than its
-- characters.
def bytes (id : LogicalId) : List UInt8 := id.text.toByteArray.data.toList

theorem bytes_append (stem rest : String) :
    bytes ⟨stem ++ rest⟩ = bytes ⟨stem⟩ ++ bytes ⟨rest⟩ := by
  simp [bytes, String.toByteArray_append]

theorem bytes_ofList (letters : List Char) :
    bytes ⟨String.ofList letters⟩ = letters.flatMap String.utf8EncodeChar := by
  simp [bytes, List.utf8Encode]

def isPlain (byte : UInt8) : Bool :=
  (48 ≤ byte && byte ≤ 57) || (65 ≤ byte && byte ≤ 90) || (97 ≤ byte && byte ≤ 122)

theorem isPlain_ofNat {n : Nat} (bound : n < 256) (plain : isPlain (UInt8.ofNat n) = true) :
    (48 ≤ n ∧ n ≤ 57) ∨ (65 ≤ n ∧ n ≤ 90) ∨ (97 ≤ n ∧ n ≤ 122) := by
  simp only [isPlain, Bool.or_eq_true, Bool.and_eq_true, decide_eq_true_eq, UInt8.le_iff_toNat_le,
    UInt8.toNat_ofNat', Nat.reducePow, Nat.mod_eq_of_lt bound, UInt8.reduceToNat] at plain
  omega

-- The first byte of every other character lies beyond those of letters and digits.
theorem isAlphanum_of_bytes {c : Char}
    (plain : ∀ byte ∈ String.utf8EncodeChar c, isPlain byte = true) : c.isAlphanum = true := by
  have beyond {n : Nat} (above : 122 < n) (bound : n < 256) : ¬ isPlain (UInt8.ofNat n) = true := by
    intro low
    have := isPlain_ofNat bound low
    omega
  unfold String.utf8EncodeChar at plain
  dsimp only at plain
  split at plain
  · rename_i ascii
    have letter := isPlain_ofNat (by omega) (plain _ List.mem_cons_self)
    rw [isAlphanum_iff]
    exact letter
  · split at plain
    · exact absurd (plain _ List.mem_cons_self) (beyond (by omega) (by omega))
    · split at plain
      · exact absurd (plain _ List.mem_cons_self) (beyond (by omega) (by omega))
      · exact absurd (plain _ List.mem_cons_self) (beyond (by omega) (by omega))

def Plain (id : LogicalId) : Prop := id.bytes ≠ [] ∧ id.bytes.all isPlain = true

instance (id : LogicalId) : Decidable id.Plain := inferInstanceAs (Decidable (_ ∧ _))

theorem Plain.isValid {id : LogicalId} (plain : id.Plain) : id.isValid = true := by
  obtain ⟨text⟩ := id
  obtain ⟨letters, rfl⟩ : ∃ letters, text = String.ofList letters := ⟨_, String.ofList_toList.symm⟩
  obtain ⟨some_byte, all_bytes⟩ := plain
  rw [bytes_ofList] at some_byte all_bytes
  simp only [LogicalId.isValid, String.toList_ofList, Bool.and_eq_true, Bool.not_eq_true',
    List.isEmpty_eq_false_iff, List.all_eq_true]
  constructor
  · rintro rfl
    exact some_byte rfl
  · intro c member
    exact isAlphanum_of_bytes fun byte inside =>
      List.all_eq_true.mp all_bytes byte (List.mem_flatMap.mpr ⟨c, member, inside⟩)

end LogicalId

namespace Zone

inductive Family where
  | zone | block | subnet | association | subnetOutput | blockOutput
  deriving DecidableEq, Repr

namespace Family

def all : List Family := [.zone, .block, .subnet, .association, .subnetOutput, .blockOutput]

theorem mem_all (family : Family) : family ∈ all := by cases family <;> decide

def stem : Family → String
  | .zone => "az"
  | .block => "subnetCidrBlockForAz"
  | .subnet => "CerberusSubnetForAz"
  | .association => "CerberusSubnetRouteTableAssociationForAz"
  | .subnetOutput => "vpcSubnetIdForAz"
  | .blockOutput => "vpcSubnetCidrBlockForAz"

def name (family : Family) (zone : Nat) : LogicalId := ⟨family.stem ++ toString zone⟩

-- No stem begins another, so the stem can be read off a name.
theorem stem_apart : ∀ one ∈ all, ∀ other ∈ all,
    LogicalId.bytes ⟨one.stem⟩ <+: LogicalId.bytes ⟨other.stem⟩ → one = other := by
  decide +kernel

theorem stem_begins (family : Family) (zone : Nat) :
    LogicalId.bytes ⟨family.stem⟩ <+: (family.name zone).bytes := by
  rw [name, LogicalId.bytes_append]
  exact List.prefix_append _ _

theorem digits_injective {i j : Nat} (same : toString i = toString j) : i = j := by
  have digits := congrArg (fun text : String => Nat.ofDigitChars 10 text.toList 0) same
  simpa [Nat.toString_eq_ofList_toDigits] using digits

theorem stem_unique {one other : Family} {bytes : List UInt8}
    (first : LogicalId.bytes ⟨one.stem⟩ <+: bytes)
    (second : LogicalId.bytes ⟨other.stem⟩ <+: bytes) : one = other := by
  rcases List.prefix_or_prefix_of_prefix first second with shorter | longer
  · exact stem_apart one (mem_all _) other (mem_all _) shorter
  · exact (stem_apart other (mem_all _) one (mem_all _) longer).symm

theorem name_injective {one other : Family} {i j : Nat} (same : one.name i = other.name j) :
    one = other ∧ i = j := by
  have family : one = other := stem_unique (same ▸ stem_begins one i) (stem_begins other j)
  subst family
  have text : one.stem ++ toString i = one.stem ++ toString j := congrArg LogicalId.text same
  have digits : toString i = toString j := by simpa using text
  exact ⟨rfl, digits_injective digits⟩

theorem names_distinct (family : Family) {zones : List Nat} (distinct : zones.Nodup) :
    (zones.map family.name).Nodup := distinct.map fun _ _ same => (name_injective same).2

theorem name_valid (family : Family) (zone : Nat) : (family.name zone).isValid = true := by
  have stem : (LogicalId.mk family.stem).isValid = true := by
    cases family <;> decide
  have digits : ∀ c ∈ (toString zone).toList, c.isAlphanum = true := by
    intro c member
    rw [Nat.toString_eq_ofList_toDigits, String.toList_ofList] at member
    simp [Char.isAlphanum, Nat.isDigit_of_mem_toDigits (by decide) (by decide) member]
  simp only [LogicalId.isValid, Bool.and_eq_true, Bool.not_eq_true', List.isEmpty_eq_false_iff,
    List.all_eq_true] at stem
  simp only [LogicalId.isValid, name, String.toList_append, Bool.and_eq_true, Bool.not_eq_true',
    List.isEmpty_eq_false_iff, List.all_eq_true]
  constructor
  · exact List.append_ne_nil_of_left_ne_nil stem.1 _
  · intro c member
    rcases List.mem_append.mp member with letter | digit
    · exact stem.2 c letter
    · exact digits c digit

def Begins (family : Family) (id : LogicalId) : Prop := family.stem.toList <+: id.text.toList

instance (family : Family) (id : LogicalId) : Decidable (family.Begins id) :=
  inferInstanceAs (Decidable (_ <+: _))

theorem begins_name (family : Family) (zone : Nat) : family.Begins (family.name zone) := by
  rw [Begins, name, String.toList_append]
  exact List.prefix_append _ _

theorem Begins.bytes {family : Family} {id : LogicalId} (begins : family.Begins id) :
    LogicalId.bytes ⟨family.stem⟩ <+: id.bytes := by
  obtain ⟨rest, whole⟩ := begins
  have text : id.text = family.stem ++ String.ofList rest := by
    rw [← String.toList_inj, String.toList_append, String.toList_ofList, whole]
  have bytes : id.bytes = LogicalId.bytes ⟨family.stem ++ String.ofList rest⟩ :=
    congrArg (fun text => LogicalId.bytes ⟨text⟩) text
  rw [bytes, LogicalId.bytes_append]
  exact List.prefix_append _ _

theorem Begins.family_eq {one other : Family} {zone : Nat} (begins : one.Begins (other.name zone)) :
    one = other := stem_unique begins.bytes (stem_begins other zone)

end Family

def Apart (id : LogicalId) : Prop :=
  ∀ family ∈ Family.all, ¬ LogicalId.bytes ⟨family.stem⟩ <+: id.bytes

instance (id : LogicalId) : Decidable (Apart id) := inferInstanceAs (Decidable (∀ _ ∈ _, _))

theorem Apart.ne {id : LogicalId} (apart : Apart id) (family : Family) (zone : Nat) :
    id ≠ family.name zone := by
  rintro rfl
  exact apart family (Family.mem_all family) (Family.stem_begins family zone)

theorem Apart.not_begins {id : LogicalId} (apart : Apart id) (family : Family) :
    ¬ family.Begins id := fun begins => apart family (Family.mem_all family) begins.bytes

end Zone

namespace Addressing

def zones (addressing : Addressing) : List Nat := List.range' 1 addressing.zoneCount

theorem zones_distinct (addressing : Addressing) : addressing.zones.Nodup := List.nodup_range' 1

theorem mem_zones {addressing : Addressing} {zone : Nat} :
    zone ∈ addressing.zones ↔ 1 ≤ zone ∧ zone ≤ addressing.zoneCount := by
  rw [zones, List.mem_range'_1]
  omega

end Addressing

end StackTemplate
