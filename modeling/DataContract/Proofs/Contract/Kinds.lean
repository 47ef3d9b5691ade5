/-
Kinds and their names.

Two questions are put to a value apart from each other: which kinds accept it, and what its kind is
called. They have one answer (`accepts_iff_name`), but for members of enumerations, which are atoms
and may at the same time be the text, the number, the list or the map that is assigned to them
(`accepts_member_iff`). So a type that does not accept a value is never called what the value's kind
is called (`name_ne_kindName`).
-/
import DataContract.Contract.FieldType
import DataContract.Proofs.Result

namespace DataContract

/-! ### Values and kinds -/

/-- The kind of the text, the number, the list or the map that a value is, be it a member or not. -/
def Value.plainKind? (v : Value) : Option FieldKind :=
  match v.asText?, v.asNumber?, v.asItems?, v.asEntries? with
  | some _, _, _, _ => some .string
  | none, some (.int _), _, _ => some .integer
  | none, some (.double _), _, _ => some .float
  | none, none, some _, _ => some .list
  | none, none, none, some _ => some .map
  | none, none, none, none => none

namespace FieldKind

variable {k l : FieldKind} {v : Value} {m : Member}

theorem name_inj : k.name = l.name ↔ k = l := by
  cases k <;> cases l <;> decide

/-- A value that is no member is accepted by the kind that its kind's name is the name of, and by
no other. -/
theorem accepts_iff_name (single : v.asMember? = none) :
    k.accepts v = true ↔ k.name = v.kindName := by
  rw [Value.kindName, single]
  cases v with
  | atom a => cases single
  | _ => cases k <;> simp [accepts, name, Value.plainKindName, Value.asText?, single]

/-- A member is accepted as an atom, and as what it is at the same time. -/
theorem accepts_member_iff (member : v.asMember? = some m) :
    k.accepts v = true ↔ k = .atom ∨ v.plainKind? = some k := by
  cases v with
  | atom a =>
    obtain ⟨family, name, value, isValue⟩ := a
    cases value <;> cases isValue <;> cases k <;>
      simp [accepts, Value.plainKind?, Value.asText?, Value.asNumber?, Value.asItems?,
        Value.asEntries?, member]
  | sequence kind items =>
    cases k <;>
      simp [accepts, Value.plainKind?, Value.asText?, Value.asNumber?, Value.asItems?, member]
  | mapping kind entries =>
    cases k <;>
      simp [accepts, Value.plainKind?, Value.asText?, Value.asNumber?, Value.asItems?,
        Value.asEntries?, member]
  | _ => cases member

/-- Two kinds accept one value only if it is a member, one of them is that of members and the other
that of what the member is besides. -/
theorem related_of_accepts (first : k.accepts v = true) (second : l.accepts v = true)
    (other : k ≠ l) : ∃ m, v.asMember? = some m ∧
      (k = .atom ∧ v.plainKind? = some l ∨ l = .atom ∧ v.plainKind? = some k) := by
  cases member : v.asMember? with
  | none =>
    rw [accepts_iff_name member] at first second
    exact absurd (name_inj.mp (first.trans second.symm)) other
  | some m =>
    refine ⟨m, rfl, ?_⟩
    rw [accepts_member_iff member] at first second
    obtain rfl | first := first
    · obtain rfl | second := second
      · exact absurd rfl other
      · exact .inl ⟨rfl, second⟩
    · obtain rfl | second := second
      · exact .inr ⟨rfl, first⟩
      · exact absurd (Option.some.inj (first.symm.trans second)) other

end FieldKind

/-! ### Types and their names -/

namespace FieldType

variable {t : FieldType} {v : Value}

/-- A type that does not accept a value has another name than the value's kind. -/
theorem name_ne_kindName (other : t.accepts v = false) : t.name ≠ v.kindName := by
  cases t with
  | listOf item =>
    intro same
    have letters := congrArg String.toList same
    rw [Value.kindName] at letters
    split at letters
    · simp [name] at letters
    · cases v <;> simp [name, Value.plainKindName] at letters
  | kind k =>
    intro same
    refine Bool.false_ne_true (other.symm.trans ?_)
    cases member : v.asMember? with
    | none => exact (FieldKind.accepts_iff_name member).mpr same
    | some m =>
      rw [Value.kindName, member] at same
      exact (FieldKind.accepts_member_iff member).mpr (.inl (FieldKind.name_inj.mp same))

theorem comma_not_mem_name (t : FieldType) : ',' ∉ t.name.toList := by
  induction t with
  | kind k => cases k <;> decide
  | listOf item ih => simp [name, ih]

end FieldType

theorem Value.comma_not_mem_kindName (v : Value) : ',' ∉ v.kindName.toList := by
  rw [kindName]
  split
  · decide
  · cases v <;> simp [plainKindName]

end DataContract
