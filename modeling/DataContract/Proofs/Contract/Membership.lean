/-
Values that are one of those configured.

A value is one of the configured ones if one of them is of its type and equal. The types are
compared at the top alone, and equality does not ask for them further inside. So what passes
strictly equals a configured value, with the same type at every place, exactly if what stands inside
it is distinctive (`one_of_strict_iff_distinctive`); otherwise values of other types are taken for
each other inside a list, a set or a map (`truth_taken_for_one`). Fractions, lists and tuples inside
can only be mistaken for members of enumerations.
-/
import DataContract.Proofs.Contract.Check
import DataContract.Proofs.Value.Facing

namespace DataContract

open Value

namespace Constraint

variable {values : List Value} {x : Value}

theorem check_oneOf_eq_ok_iff : (oneOf values).check x = .ok none ↔
    ∃ v ∈ values, v.typeName = x.typeName ∧ (v == x) = true := by
  simp only [check]
  rw [unless_message_eq_ok_none_iff]
  simp only [isOneOf, List.any_eq_true, Bool.and_eq_true, beq_iff_eq]

end Constraint

/-- What passes is one of the configured values, of the same type and equal, and what strictly equals
one of them passes. A value passes for no other reason, whatever is configured, if all that stands
inside it is distinctive; and a value without NaN for which that is not so passes for another one,
with a part of another type. Where no member that is a double, a list or a tuple is configured, it is
enough that all that stands inside is singular. -/
theorem one_of_strict_iff_distinctive (values : List Value) (x : Value) :
    ((Constraint.oneOf values).check x = .ok none ↔
      ∃ v ∈ values, v.typeName = x.typeName ∧ (v == x) = true) ∧
    ((∃ v ∈ values, v.StrictlyEquals x) → (Constraint.oneOf values).check x = .ok none) ∧
    ((∀ z, Within z x → z.isDistinctive = true) →
      ((Constraint.oneOf values).check x = .ok none ↔ ∃ v ∈ values, v.StrictlyEquals x)) ∧
    ((∀ z, Within z x → z.isSingular = true) →
      (∀ v ∈ values, ∀ w, Within w v → w.isMimic = false) →
      ((Constraint.oneOf values).check x = .ok none ↔ ∃ v ∈ values, v.StrictlyEquals x)) ∧
    (x.Sound → (∃ z, Within z x ∧ z.isDistinctive = false) →
      ∃ v : Value, (Constraint.oneOf [v]).check x = .ok none ∧ ¬v.StrictlyEquals x) := by
  have strict : (∃ v ∈ values, v.StrictlyEquals x) →
      (Constraint.oneOf values).check x = .ok none := by
    rintro ⟨v, mem, same, types⟩
    exact Constraint.check_oneOf_eq_ok_iff.mpr ⟨v, mem, types v x .refl, same⟩
  refine ⟨Constraint.check_oneOf_eq_ok_iff, strict, fun inside => ⟨fun passed => ?_, strict⟩,
    fun inside plain => ⟨fun passed => ?_, strict⟩, fun sound ⟨z, within, mistakable⟩ => ?_⟩
  · obtain ⟨v, mem, type, same⟩ := Constraint.check_oneOf_eq_ok_iff.mp passed
    refine ⟨v, mem, strictlyEquals_of_alike (fun a b _ within equal => ?_) type same⟩
    exact typeName_eq_of_beq (inside b within) equal
  · obtain ⟨v, mem, type, same⟩ := Constraint.check_oneOf_eq_ok_iff.mp passed
    refine ⟨v, mem, strictlyEquals_of_alike (fun a b configured within equal => ?_) type same⟩
    exact typeName_eq_of_singular (inside b within) (plain v mem a configured) equal
  · obtain ⟨v, type, same, loose⟩ := exists_not_strictlyEquals sound within mistakable
    exact ⟨v, Constraint.check_oneOf_eq_ok_iff.mpr ⟨v, List.mem_singleton_self v, type, same⟩, loose⟩

/-- A member that is no text at the same time, in a list. -/
def adminList : Value := .list [.atom ⟨"Role", "ADMIN", .text "admin", false⟩]

/-- Such a list holds nothing that could be taken for another, so it passes for itself alone. -/
theorem adminList_strict : (∀ z, Within z adminList → z.isDistinctive = true) ∧
    ∃ v ∈ [Value.list [.text "admin"], adminList], v.StrictlyEquals adminList := by
  have inside : ∀ z, Within z adminList → z.isDistinctive = true := by
    intro z within
    obtain ⟨y, child, deeper⟩ := Relation.TransGen.head'_iff.mp within
    cases child with
    | item mem =>
      obtain rfl := List.mem_singleton.mp mem
      -- a member has no parts
      obtain same | ⟨w, none, -⟩ := Relation.ReflTransGen.cases_head deeper
      · rw [← same]
        rfl
      · cases none
  exact ⟨inside, ((one_of_strict_iff_distinctive _ adminList).2.2.1 inside).mp (by cbv)⟩

/-- A list with the truth value is configured, and the list with the integer one passes, although
nothing configured has its type at every place. -/
theorem truth_taken_for_one :
    (Constraint.oneOf [.list [.bool true]]).check (.list [.int 1]) = .ok none ∧
      ¬∃ v ∈ [Value.list [.bool true]], v.StrictlyEquals (.list [.int 1]) := by
  have same : (Value.bool true == Value.int 1) = true := by
    rw [beq_of_atomic rfl]
    exact Number.beq_self (n := .int 1) nofun
  have lists : (Value.list [.bool true] == Value.list [.int 1]) = true :=
    beq_sequence_iff.mpr ⟨rfl, .cons same .nil⟩
  refine ⟨Constraint.check_oneOf_eq_ok_iff.mpr ⟨_, List.mem_singleton_self _, rfl, lists⟩, ?_⟩
  rintro ⟨v, mem, -, types⟩
  obtain rfl := List.mem_singleton.mp mem
  have opposite : Opposite (.list [.bool true], .list [.int 1]) (.bool true, .int 1) :=
    .item (by simp)
  exact absurd (types _ _ (.single opposite)) (by decide)

end DataContract
