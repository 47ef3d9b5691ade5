/-
Contracts declared from descriptions.

A description is a tree: a field has a name, a type however it is spelled (`TypeSpelling`), a flag,
keywords with values, and perhaps fields of its own. It is declared from the inside out
(`ContractDescription.declared`). What comes out is the contract that it describes
(`ContractDescription.Describes`), and the warnings written are those of its fields in that order,
each after the warnings of the fields inside it (`warningsWithin`): `declared_describes`.
-/
import DataContract.Proofs.Contract.Value
import DataContract.Proofs.Declaration.Building

namespace DataContract

/-! ### Spellings of types -/

/-- How a declaration spells a type: by the name of a kind or by its member, as the list type of
another, or as a pair of `list` and another. -/
inductive TypeSpelling where
  | name (k : FieldKind)
  | member (k : FieldKind)
  | listOf (item : TypeSpelling)
  | pair (item : TypeSpelling)

namespace TypeSpelling

/-- The type that is spelled. -/
def type : TypeSpelling → FieldType
  | name k => .kind k
  | member k => .kind k
  | listOf item => .listOf item.type
  | pair item => .listOf item.type

/-- The spelling as a value. -/
def spelled : TypeSpelling → Value
  | name k => .text k.name
  | member k => .atom k.toAtom
  | listOf item => (FieldType.listOf item.type).toValue
  | pair item => .tuple [.text FieldKind.list.name, item.spelled]

end TypeSpelling

/-- A type is declared by each of its spellings. -/
theorem TypeSpelling.declared_spelled (s : TypeSpelling) :
    FieldType.declared s.spelled = .ok s.type := by
  induction s with
  | name k => cases k <;> rfl
  | member k => cases k <;> rfl
  | listOf item =>
    have value : FieldType.ofValue? (listOf item).spelled = some (listOf item).type :=
      FieldType.ofValue?_toValue _
    unfold FieldType.declared
    simp only [value]
  | pair item ih =>
    have list : isListWord (.text FieldKind.list.name) = true := Value.text_beq_iff.mpr rfl
    show (if isListWord (.text FieldKind.list.name) then
      (FieldType.declared item.spelled).map FieldType.listOf else _) = _
    rw [if_pos list, ih]
    rfl

/-! ### Descriptions -/

/-- A field as it is described. -/
structure FieldDescription where
  name : Value
  type : TypeSpelling
  required : Bool
  constraints : List (String × Value)
  fields : Option (List FieldDescription)

/-- A contract as it is described. -/
structure ContractDescription where
  name : Value
  fields : List FieldDescription

mutual

/-- The field of a description, declared after the fields inside it. -/
def FieldDescription.declared : FieldDescription → Noted DeclarationFault Field
  | ⟨name, type, required, constraints, fields⟩ => do
    let nested ← declaredInside fields
    Field.declared name type.spelled required nested (constraints.map fun (k, v) => (.text k, v))

/-- The fields inside a field, if it is given any. -/
def declaredInside : Option (List FieldDescription) → Noted DeclarationFault (Option (List Field))
  | none => .ok none
  | some ds => do
    let fields ← declaredInOrder ds
    return some fields

/-- The fields of descriptions, one after the other. -/
def declaredInOrder : List FieldDescription → Noted DeclarationFault (List Field)
  | [] => .ok []
  | d :: rest => do
    let f ← d.declared
    let others ← declaredInOrder rest
    return f :: others

end

/-- The contract of a description, declared after its fields. -/
def ContractDescription.declared (d : ContractDescription) : Noted DeclarationFault Contract := do
  let fields ← declaredInOrder d.fields
  Noted.of (Contract.declared d.name fields)

/-! ### What is described -/

/-- A keyword with a value describes a constraint. -/
def DescribesConstraint (parameter : String × Value) (c : Constraint) : Prop :=
  Constraint.declared (.text parameter.1) parameter.2 = .ok c

mutual

/-- A description describes a field: name, type and flag, the constraints in order, and the fields
inside it. -/
def FieldDescription.Describes : FieldDescription → Field → Prop
  | ⟨name, type, required, constraints, fields⟩, f =>
    Reading.nonEmptyText name = .ok f.name ∧ f.type = type.type ∧ f.required = required ∧
      List.Forall₂ DescribesConstraint constraints f.constraints ∧ describesInside fields f.nested

def describesInside : Option (List FieldDescription) → Option (List Field) → Prop
  | none, nested => nested = none
  | some ds, nested => ∃ fields, nested = some fields ∧ describesInOrder ds fields

def describesInOrder : List FieldDescription → List Field → Prop
  | [], fields => fields = []
  | d :: rest, fields =>
    ∃ f others, fields = f :: others ∧ d.Describes f ∧ describesInOrder rest others

end

/-- A description describes a contract. -/
def ContractDescription.Describes (d : ContractDescription) (c : Contract) : Prop :=
  Reading.nonEmptyText d.name = .ok c.name ∧ describesInOrder d.fields c.fields

mutual

/-- The warnings for a field and the fields inside it, these first. -/
def Field.allWarnings : Field → List LogEntry
  | ⟨name, type, required, constraints, nested⟩ =>
    warningsInside nested ++ Field.warnings ⟨name, type, required, constraints, nested⟩

def warningsInside : Option (List Field) → List LogEntry
  | none => []
  | some fields => warningsWithin fields

/-- The warnings for fields in order. -/
def warningsWithin : List Field → List LogEntry
  | [] => []
  | f :: rest => f.allWarnings ++ warningsWithin rest

end

/-! ### Declaring what is described -/

theorem Constraint.declaredAll_eq_ok_iff {parameters : List (String × Value)}
    {cs : List Constraint} :
    declaredAll (parameters.map fun (k, v) => (.text k, v)) = .ok cs ↔
      List.Forall₂ DescribesConstraint parameters cs := by
  induction parameters generalizing cs with
  | nil =>
    rw [List.forall₂_nil_left_iff]
    exact ⟨fun h => (Except.ok.inj h).symm, fun h => h ▸ rfl⟩
  | cons p rest ih =>
    simp only [List.map_cons, declaredAll, bind_eq_ok_iff, pure_eq_ok_iff, ih,
      List.forall₂_cons_left_iff, DescribesConstraint]
    constructor
    · rintro ⟨c, first, others, later, rfl⟩
      exact ⟨c, others, first, later, rfl⟩
    · rintro ⟨c, others, first, later, rfl⟩
      exact ⟨c, first, others, later, rfl⟩

/-- A field is declared after the fields inside it, its warnings being written after theirs. -/
theorem FieldDescription.declared_eq_ok_iff {d : FieldDescription} {f : Field}
    {notes : List LogEntry} : d.declared = ⟨.ok f, notes⟩ ↔
    (∃ before, declaredInside d.fields = ⟨.ok f.nested, before⟩ ∧ notes = before ++ f.warnings) ∧
      Reading.nonEmptyText d.name = .ok f.name ∧ f.type = d.type.type ∧ f.required = d.required ∧
      List.Forall₂ DescribesConstraint d.constraints f.constraints ∧
      DistinctNames f.nested ∧ (f.nested.isSome → f.type = .kind .map) := by
  obtain ⟨name, type, required, constraints, fields⟩ := d
  rw [declared, Noted.bind_eq_ok_iff]
  simp only [Field.declared_eq_ok_iff, type.declared_spelled, Except.ok.injEq,
    Constraint.declaredAll_eq_ok_iff]
  constructor
  · rintro ⟨_, before, _, inside, declared, rfl⟩
    obtain ⟨typed, fits, constrained, named, flagged, rfl, distinct, rfl⟩ := declared
    exact ⟨⟨before, inside, rfl⟩, named, typed.symm, flagged, constrained, distinct, fits⟩
  · rintro ⟨⟨before, inside, rfl⟩, named, typed, flagged, constrained, distinct, fits⟩
    exact ⟨f.nested, before, f.warnings, inside,
      ⟨typed.symm, fits, constrained, named, flagged, rfl, distinct, rfl⟩, rfl⟩

theorem ContractDescription.declared_eq_ok_iff {d : ContractDescription} {c : Contract}
    {notes : List LogEntry} : d.declared = ⟨.ok c, notes⟩ ↔
      Reading.nonEmptyText d.name = .ok c.name ∧ (c.fields.map (·.name)).Nodup ∧
        declaredInOrder d.fields = ⟨.ok c.fields, notes⟩ := by
  simp only [declared, Noted.bind_eq_ok_iff, Noted.of_eq_ok_iff, Contract.declared_eq_ok_iff]
  constructor
  · rintro ⟨_, first, _, fields, ⟨⟨named, rfl, distinct⟩, rfl⟩, rfl⟩
    exact ⟨named, distinct, by rw [fields, List.append_nil]⟩
  · rintro ⟨named, distinct, fields⟩
    exact ⟨c.fields, notes, [], fields, ⟨⟨named, rfl, distinct⟩, rfl⟩, by rw [List.append_nil]⟩

theorem Field.allWarnings_eq (f : Field) :
    f.allWarnings = warningsInside f.nested ++ f.warnings := by
  obtain ⟨name, type, required, constraints, nested⟩ := f
  rw [allWarnings]

/-! The induction is on the description: a field, what is inside it, and fields in order. -/

mutual

theorem FieldDescription.declared_describes (d : FieldDescription) {f : Field}
    {notes : List LogEntry} (h : d.declared = ⟨.ok f, notes⟩) :
    d.Describes f ∧ notes = f.allWarnings := by
  obtain ⟨⟨before, inside, rfl⟩, named, typed, flagged, constrained, -⟩ :=
    FieldDescription.declared_eq_ok_iff.mp h
  obtain ⟨name, type, required, constraints, fields⟩ := d
  obtain ⟨nested, rfl⟩ := inside_describes fields inside
  exact ⟨⟨named, typed, flagged, constrained, nested⟩, f.allWarnings_eq.symm⟩

theorem inside_describes (ds : Option (List FieldDescription)) {nested : Option (List Field)}
    {notes : List LogEntry} (h : declaredInside ds = ⟨.ok nested, notes⟩) :
    describesInside ds nested ∧ notes = warningsInside nested := by
  cases ds with
  | none =>
    cases h
    exact ⟨rfl, rfl⟩
  | some ds =>
    rw [declaredInside, Noted.bind_pure_eq_ok_iff] at h
    obtain ⟨fields, rfl, h⟩ := h
    obtain ⟨described, rfl⟩ := inOrder_describes ds h
    exact ⟨⟨fields, rfl, described⟩, rfl⟩

theorem inOrder_describes (ds : List FieldDescription) {fields : List Field}
    {notes : List LogEntry} (h : declaredInOrder ds = ⟨.ok fields, notes⟩) :
    describesInOrder ds fields ∧ notes = warningsWithin fields := by
  cases ds with
  | nil =>
    cases h
    exact ⟨rfl, rfl⟩
  | cons d rest =>
    rw [declaredInOrder, Noted.bind_cons_eq_ok_iff] at h
    obtain ⟨f, others, first, after, rfl, rfl, hf, ho⟩ := h
    obtain ⟨described, rfl⟩ := FieldDescription.declared_describes d hf
    obtain ⟨describedRest, rfl⟩ := inOrder_describes rest ho
    exact ⟨⟨f, others, rfl, described, describedRest⟩, rfl⟩

end

/-- What is declared from a description is what it describes, and the warnings written are those of
its fields. -/
theorem ContractDescription.declared_describes {d : ContractDescription} {c : Contract}
    {notes : List LogEntry} (h : d.declared = ⟨.ok c, notes⟩) :
    d.Describes c ∧ notes = warningsWithin c.fields := by
  obtain ⟨named, -, fields⟩ := declared_eq_ok_iff.mp h
  obtain ⟨described, warned⟩ := inOrder_describes d.fields fields
  exact ⟨⟨named, described⟩, warned⟩

end DataContract
