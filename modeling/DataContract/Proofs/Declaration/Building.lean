/-
What a successful declaration is put together of.

A field is declared exactly if its type is spelled, its constraints are declared, it has a name and,
where it is given fields, is a map and these have distinct names; the warnings for it are written
(`Field.declared_eq_ok_iff`). A contract is declared exactly if it has a name and fields of distinct
names (`Contract.declared_eq_ok_iff`).
-/
import DataContract.Declaration.Basic
import DataContract.Proofs.Reading.Success

namespace DataContract

variable {name type : Value} {required : Bool} {fields : Option (List Field)}
  {constraints : List (Value × Value)} {cs : List Constraint} {f : Field} {t : FieldType}

/-- The names of fields, where there are any, are distinct. -/
def DistinctNames (fields : Option (List Field)) : Prop :=
  ∀ fs, fields = some fs → (fs.map (·.name)).Nodup

namespace Reading

/-- The fields that a field is given, as they are read. -/
def given : Option (List Field) → Reading (Option (List Field))
  | none => .ok none
  | some fields => under (.name "nested_fields") (nestedOf (.ok fields))

theorem given_eq_ok_iff {nested : Option (List Field)} :
    given fields = .ok nested ↔ nested = fields ∧ DistinctNames fields := by
  cases fields with
  | none =>
    constructor
    · rintro ⟨⟩
      exact ⟨rfl, nofun⟩
    · rintro ⟨rfl, -⟩
      rfl
  | some fs => simp [given, under_eq_ok_iff, nestedOf_eq_ok_iff, DistinctNames]

end Reading

namespace Field

theorem assemble_eq : assemble name t required cs fields =
    (Reading.both (Reading.under (.name "name") (Reading.nonEmptyText name))
      (Reading.given fields)).map fun p => ⟨p.1, t, required, cs, p.2⟩ := by
  unfold assemble
  cases fields with
  | none | some fs =>
    dsimp only [Reading.given]
    split
    · next parts =>
      rw [parts]
      rfl
    · next parts =>
      rw [parts]
      rfl

theorem assemble_eq_ok_iff : assemble name t required cs fields = .ok f ↔
    Reading.nonEmptyText name = .ok f.name ∧ f.type = t ∧ f.required = required ∧
      f.constraints = cs ∧ f.nested = fields ∧ DistinctNames fields := by
  rw [assemble_eq, map_eq_ok_iff]
  simp only [Reading.both_eq_ok_iff, Reading.under_eq_ok_iff, Reading.given_eq_ok_iff]
  constructor
  · rintro ⟨⟨n, nested⟩, ⟨named, rfl, distinct⟩, rfl⟩
    exact ⟨named, rfl, rfl, rfl, rfl, distinct⟩
  · rintro ⟨named, rfl, rfl, rfl, rfl, distinct⟩
    exact ⟨(f.name, f.nested), ⟨named, rfl, distinct⟩, by cases f; rfl⟩

/-- A field is declared exactly if each part of it is and they fit together; then the warnings for
its constraints are written. -/
theorem declared_eq_ok_iff {notes : List LogEntry} :
    declared name type required fields constraints = ⟨.ok f, notes⟩ ↔
      FieldType.declared type = .ok f.type ∧ (fields.isSome → f.type = .kind .map) ∧
      Constraint.declaredAll constraints = .ok f.constraints ∧
      Reading.nonEmptyText name = .ok f.name ∧ f.required = required ∧ f.nested = fields ∧
      DistinctNames fields ∧ notes = f.warnings := by
  rw [declared, Noted.of_bind_eq_ok_iff]
  constructor
  · rintro ⟨resolved, type, rest⟩
    split at rest
    · obtain ⟨_, -, refused⟩ := Noted.of_bind_eq_ok_iff.mp rest
      cases refused
    · next fits =>
      simp only [Noted.of_bind_eq_ok_iff, DeclarationFault.ofReading_eq_ok_iff,
        assemble_eq_ok_iff, Noted.noteAll_pure_eq_ok_iff] at rest
      obtain ⟨cs, constraints, _, ⟨named, rfl, rfl, rfl, rfl, distinct⟩, rfl, rfl⟩ := rest
      exact ⟨type, by simpa using fits, constraints, named, rfl, rfl, distinct, rfl⟩
  · rintro ⟨type, fits, constraints, named, rfl, rfl, distinct, rfl⟩
    refine ⟨f.type, type, ?_⟩
    rw [if_neg (by simpa using fits)]
    simp only [Noted.of_bind_eq_ok_iff, DeclarationFault.ofReading_eq_ok_iff,
      assemble_eq_ok_iff, Noted.noteAll_pure_eq_ok_iff]
    exact ⟨f.constraints, constraints, f, ⟨named, rfl, rfl, rfl, rfl, distinct⟩, rfl, rfl⟩

end Field

theorem Contract.declared_eq_ok_iff {fs : List Field} {c : Contract} :
    declared name fs = .ok c ↔
      Reading.nonEmptyText name = .ok c.name ∧ c.fields = fs ∧ (fs.map (·.name)).Nodup := by
  rw [declared, DeclarationFault.ofReading_eq_ok_iff, map_eq_ok_iff]
  simp only [Reading.both_eq_ok_iff, Reading.under_eq_ok_iff, Reading.distinct_eq_ok_iff]
  constructor
  · rintro ⟨⟨n, _⟩, ⟨hn, rfl, distinct⟩, rfl⟩
    exact ⟨hn, rfl, distinct⟩
  · rintro ⟨hn, rfl, distinct⟩
    exact ⟨(c.name, c.fields), ⟨hn, rfl, distinct⟩, rfl⟩

end DataContract
