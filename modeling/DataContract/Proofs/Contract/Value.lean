/-
Contracts as values.

What a contract shows as a value is read back as that contract (`Contract.ofValue?_toValue`), and so
for its types, constraints and fields.
-/
import DataContract.Proofs.Contract.Tree

namespace DataContract

theorem FieldType.ofValue?_toValue (t : FieldType) : ofValue? t.toValue = some t := by
  induction t with
  | kind k => cases k <;> rfl
  | listOf item ih => rw [toValue, ofValue?, ih, Option.map_some]

theorem Bound.ofValue?_toValue (b : Bound) : ofValue? b.toValue = some b := by
  cases b with
  | number n => cases n <;> rfl
  | _ => rfl

theorem Constraint.ofValue?_toValue (c : Constraint) : ofValue? c.toValue = some c := by
  cases c with
  | format p => rfl
  | minLength n =>
    show (if 0 ≤ (n : Int) then some (minLength n) else none) = _
    rw [if_pos (Int.natCast_nonneg n)]
  | maxLength n =>
    show (if 0 ≤ (n : Int) then some (maxLength n) else none) = _
    rw [if_pos (Int.natCast_nonneg n)]
  | min b => exact congrArg (Option.map Constraint.min) (Bound.ofValue?_toValue b)
  | max b => exact congrArg (Option.map Constraint.max) (Bound.ofValue?_toValue b)
  | oneOf values => rfl

theorem constraints_ofValue?_toValue (cs : List Constraint) :
    (cs.map Constraint.toValue).mapM Constraint.ofValue? = some cs := by
  induction cs with
  | nil => rfl
  | cons c rest ih =>
    rw [List.map_cons, List.mapM_cons, Constraint.ofValue?_toValue, ih]
    rfl

/-- A field is read back if the fields inside it are. -/
theorem Field.ofValue?_toValue_of_inside (f : Field)
    (inside : ∀ nested, f.nested = some nested →
      fieldsOfValues? (fieldsToValues nested) = some nested) : ofValue? f.toValue = some f := by
  obtain ⟨name, type, required, constraints, nested⟩ := f
  have back : nestedOfValue? (nestedToValue nested) = some nested := by
    cases nested with
    | none => rfl
    | some fields => exact congrArg (Option.map some) (inside fields rfl)
  simp only [toValue, Value.tuple, ofValue?, FieldType.ofValue?_toValue,
    constraints_ofValue?_toValue, back, Option.bind_eq_bind, Option.bind_some, Option.pure_def]

theorem fieldsOfValues?_fieldsToValues (fields : List Field) :
    fieldsOfValues? (fieldsToValues fields) = some fields := by
  induction fields using fieldsInduction with
  | nil => rfl
  | cons f rest inside ih =>
    rw [fieldsToValues, fieldsOfValues?, Field.ofValue?_toValue_of_inside f inside, ih]
    rfl

theorem Contract.ofValue?_toValue (c : Contract) : ofValue? c.toValue = some c := by
  show (fieldsOfValues? (fieldsToValues c.fields)).map _ = _
  rw [fieldsOfValues?_fieldsToValues, Option.map_some]

end DataContract
