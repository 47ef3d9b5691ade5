/-
Declarations and definition documents agree.

The same description of a contract can be declared piece by piece and written in a document
(`FieldDescription.WrittenAs`): a type by the name of its kind or as a map from `list`, a constraint
as a map from its keyword, fields under `fields`, and what is the default left out. The one succeeds
exactly if the other does, with the same contract and the same warnings
(`conversion_agrees_with_declaration`). The induction is on the description.
-/
import DataContract.Validation.Engine
import DataContract.Proofs.Declaration.Description
import DataContract.Proofs.Definition.Conversion
import DataContract.Proofs.Definition.Assembly

namespace DataContract

/-- An item of a list of constraints writes a keyword with its value. -/
def WritesParameter (item : Value) (parameter : String × Value) : Prop :=
  ∃ m key, item = .mapping m [(key, parameter.2)] ∧ key.asText? = some parameter.1

mutual

/-- A field as it is described is written as an entry of a document. -/
def FieldDescription.WrittenAs : FieldDescription → Value → Prop
  | ⟨name, type, required, constraints, fields⟩, v => ∃ m es, v = .mapping m es ∧
    Value.lookup? (.text "name") es = some name ∧
    (∃ w, Value.lookup? (.text "type") es = some w ∧ WritesType w type.type) ∧
    (Value.lookup? (.text "required") es).getD (.bool false) = .bool required ∧
    (∃ items, (Value.lookup? (.text "constraints") es).getD (.list []) = .list items ∧
      List.Forall₂ WritesParameter items constraints) ∧
    insideWrittenAs fields (Value.lookup? (.text "fields") es)

/-- The fields inside a field are written under `fields`: as a list if there are any, or as null or
not at all. -/
def insideWrittenAs : Option (List FieldDescription) → Option Value → Prop
  | none, held => held = none ∨ held = some .null
  | some ds, held => ∃ items, held = some (.list items) ∧ inOrderWrittenAs ds items

def inOrderWrittenAs : List FieldDescription → List Value → Prop
  | [], items => items = []
  | d :: rest, items =>
    ∃ v others, items = v :: others ∧ d.WrittenAs v ∧ inOrderWrittenAs rest others

end

/-- A contract as it is described is written as a list of entries. -/
def ContractDescription.WrittenAs (d : ContractDescription) (v : Value) : Prop :=
  ∃ items, v = .list items ∧ inOrderWrittenAs d.fields items

namespace Definition

variable {notes : List LogEntry} {cs : List Constraint}

/-! ### Constraints -/

/-- Only the text of a keyword matters. -/
theorem declared_of_text {key v : Value} {s : String} (text : key.asText? = some s) :
    Constraint.declared key v = Constraint.declared (.text s) v := by
  have self : (Value.text s).asText? = some s := rfl
  simp only [Constraint.declared, text, self]

theorem single_of_writes {items : List Value} {parameters : List (String × Value)}
    (written : List.Forall₂ WritesParameter items parameters) :
    ∀ item ∈ items, ∃ m keyword v, item = .mapping m [(keyword, v)] := by
  induction written with
  | nil => exact List.forall_mem_nil _
  | cons first _ ih =>
    obtain ⟨m, key, rfl, -⟩ := first
    exact List.forall_mem_cons.mpr ⟨⟨m, key, _, rfl⟩, ih⟩

theorem declaresAlone_iff_describes {items : List Value} {parameters : List (String × Value)}
    (written : List.Forall₂ WritesParameter items parameters) :
    List.Forall₂ DeclaresAlone items cs ↔ List.Forall₂ DescribesConstraint parameters cs := by
  induction written generalizing cs with
  | nil => rw [List.forall₂_nil_left_iff, List.forall₂_nil_left_iff]
  | @cons item p items ps first _ ih =>
    obtain ⟨m, key, rfl, text⟩ := first
    have alone : ∀ c, DeclaresAlone (.mapping m [(key, p.2)]) c ↔ DescribesConstraint p c := by
      intro c
      rw [DescribesConstraint, ← declared_of_text text]
      constructor
      · rintro ⟨_, _, _, ⟨⟩, declared⟩
        exact declared
      · intro declared
        exact ⟨m, key, p.2, rfl, declared⟩
    simp only [List.forall₂_cons_left_iff, ih, alone]

theorem constraintsOf_eq_ok_iff {es : List (Value × Value)} {items : List Value}
    {parameters : List (String × Value)}
    (held : (Value.lookup? (.text "constraints") es).getD (.list []) = .list items)
    (written : List.Forall₂ WritesParameter items parameters) :
    constraintsOf es = .ok cs ↔ List.Forall₂ DescribesConstraint parameters cs := by
  rw [constraintsOf_list (by rw [held]; rfl), constraintsOfItems_eq_ok_iff (single_of_writes written),
    declaresAlone_iff_describes written]

/-! ### Fields -/

theorem ok_eq_ok_iff {ε δ α : Type} {a b : α} :
    (Noted.ok a : Noted ε α) = ⟨.ok b, notes⟩ ↔ (Noted.ok a : Noted δ α) = ⟨.ok b, notes⟩ := by
  simp only [Noted.ok, Noted.mk.injEq, Except.ok.injEq]

mutual

/-- A field is converted from what it is written as exactly if it is declared. -/
theorem fieldOf_eq_ok_iff_declared (d : FieldDescription) {v : Value} (written : d.WrittenAs v)
    {f : Field} {notes : List LogEntry} :
    fieldOf v = ⟨.ok f, notes⟩ ↔ d.declared = ⟨.ok f, notes⟩ := by
  obtain ⟨name, type, required, constraints, fields⟩ := d
  obtain ⟨m, es, rfl, named, ⟨w, typed, writes⟩, flagged, ⟨items, held, constrained⟩, inside⟩ :=
    written
  rw [fieldOf_mapping_eq_ok_iff, FieldDescription.declared_eq_ok_iff,
    constraintsOf_eq_ok_iff held constrained, flagged]
  simp only [convertedInside_eq_ok_iff_declared fields inside, named, typed, Option.some.injEq,
    exists_eq_left', typeOf_of_writes writes, Except.ok.injEq, Reading.boolean]
  constructor
  · rintro ⟨constraints, named, typed, flagged, before, rest⟩
    exact ⟨before, named, typed.symm, flagged.symm, constraints, rest⟩
  · rintro ⟨before, named, typed, flagged, constraints, rest⟩
    exact ⟨constraints, named, typed.symm, flagged.symm, before, rest⟩

theorem convertedInside_eq_ok_iff_declared (ds : Option (List FieldDescription))
    {es : List (Value × Value)} (written : insideWrittenAs ds (Value.lookup? (.text "fields") es))
    {nested : Option (List Field)} {notes : List LogEntry} :
    convertedInside es = ⟨.ok nested, notes⟩ ↔ declaredInside ds = ⟨.ok nested, notes⟩ := by
  cases ds with
  | none =>
    obtain absent | null := written
    · rw [convertedInside, absent, Option.map_none, Option.getD_none, declaredInside]
      exact ok_eq_ok_iff
    · rw [convertedInside, null, Option.map_some, Option.getD_some, nestedOf, declaredInside]
      exact ok_eq_ok_iff
  | some ds =>
    obtain ⟨items, held, written⟩ := written
    rw [convertedInside, held, Option.map_some, Option.getD_some, nestedOf_sequence_eq_ok_iff,
      declaredInside, Noted.bind_pure_eq_ok_iff]
    simp only [fieldsOf_eq_ok_iff_declared ds written]

theorem fieldsOf_eq_ok_iff_declared (ds : List FieldDescription) {items : List Value}
    (written : inOrderWrittenAs ds items) {fields : List Field} {notes : List LogEntry} :
    fieldsOf items = ⟨.ok fields, notes⟩ ↔ declaredInOrder ds = ⟨.ok fields, notes⟩ := by
  cases ds with
  | nil =>
    obtain rfl := written
    rw [fieldsOf, declaredInOrder]
    exact ok_eq_ok_iff
  | cons d rest =>
    obtain ⟨v, others, rfl, first, later⟩ := written
    simp only [fieldsOf_cons_eq_ok_iff, declaredInOrder, Noted.bind_cons_eq_ok_iff,
      fieldOf_eq_ok_iff_declared d first, fieldsOf_eq_ok_iff_declared rest later]

end

/-! ### Contracts -/

theorem contractOf_eq_ok_iff_declared {d : ContractDescription} {v : Value}
    (written : d.WrittenAs v) {c : Contract} {notes : List LogEntry} :
    contractOf d.name v = ⟨.ok c, notes⟩ ↔ d.declared = ⟨.ok c, notes⟩ := by
  obtain ⟨items, rfl, written⟩ := written
  rw [contractOf_eq_ok_iff, fieldsOf_eq_ok_iff_declared d.fields written,
    ContractDescription.declared_eq_ok_iff]

/-- A contract that is described is converted from a document exactly if it is declared: as the same
contract and with the same warnings, those of its fields in order, each after the fields inside it.
It is the contract that is described, so validation against either is the same. -/
theorem conversion_agrees_with_declaration (d : ContractDescription) (v : Value)
    (written : d.WrittenAs v) :
    (∀ c notes, contractOf d.name v = ⟨.ok c, notes⟩ ↔ d.declared = ⟨.ok c, notes⟩) ∧
      ∀ c c' notes notes', d.declared = ⟨.ok c, notes⟩ → contractOf d.name v = ⟨.ok c', notes'⟩ →
        c' = c ∧ notes' = notes ∧ d.Describes c ∧ notes = warningsWithin c.fields ∧
          ∀ data, c'.validate data = c.validate data := by
  refine ⟨fun c notes => contractOf_eq_ok_iff_declared written, ?_⟩
  intro c c' notes notes' declared converted
  cases declared.symm.trans ((contractOf_eq_ok_iff_declared written).mp converted)
  obtain ⟨described, warned⟩ := ContractDescription.declared_describes declared
  exact ⟨rfl, rfl, described, warned, fun data => rfl⟩

/-- The sides of a box, as they are described and as they are written. -/
def sidesDescription : FieldDescription :=
  ⟨.text "sides", .pair (.name .integer), false, [("one_of", .list [])], none⟩

def sidesEntry : Value :=
  .map [(.text "type", .map [(.text "list", .text "integer")]), (.text "name", .text "sides"),
    (.text "constraints", .list [.map [(.text "one_of", .list [])]])]

/-- A shape, with a greatest length that means nothing. -/
def shapeDescription : FieldDescription :=
  ⟨.text "shape", .member .map, true, [("max_length", .int 9)], some [sidesDescription]⟩

def shapeEntry : Value :=
  .map [(.text "name", .text "shape"), (.text "type", .text "map"), (.text "required", .bool true),
    (.text "constraints", .list [.map [(.text "max_length", .int 9)]]),
    (.text "fields", .list [sidesEntry])]

def boxDescription : ContractDescription :=
  ⟨.text "box", [shapeDescription]⟩

def boxEntries : Value :=
  .list [shapeEntry]

theorem boxDescription_writtenAs : boxDescription.WrittenAs boxEntries := by
  have sides : sidesDescription.WrittenAs sidesEntry :=
    ⟨.plain, _, rfl, by cbv, ⟨.map [(.text "list", .text "integer")], by cbv,
        .listOf MappingKind.noConfusion rfl (.kind rfl)⟩,
      by cbv, ⟨[.map [(.text "one_of", .list [])]], by cbv, .cons ⟨_, _, rfl, rfl⟩ .nil⟩,
      .inl (by cbv)⟩
  have shape : shapeDescription.WrittenAs shapeEntry :=
    ⟨.plain, _, rfl, by cbv, ⟨.text "map", by cbv, .kind rfl⟩, by cbv,
      ⟨[.map [(.text "max_length", .int 9)]], by cbv, .cons ⟨_, _, rfl, rfl⟩ .nil⟩,
      ⟨[sidesEntry], by cbv, sidesEntry, [], rfl, sides, rfl⟩⟩
  exact ⟨_, rfl, _, [], rfl, shape, rfl⟩

def boxContract : Contract :=
  ⟨"box", [⟨"shape", .kind .map, true, [.maxLength 9],
    some [⟨"sides", .listOf (.kind .integer), false, [.oneOf []], none⟩]⟩]⟩

theorem box_agrees : boxDescription.WrittenAs boxEntries ∧
    ∃ warnings, contractOf boxDescription.name boxEntries = ⟨.ok boxContract, warnings⟩ ∧
      boxDescription.declared = ⟨.ok boxContract, warnings⟩ ∧ warnings.map (·.message) =
        ["constraint max_length has no effect on map field shape"] := by
  have written : boxDescription.WrittenAs boxEntries := boxDescription_writtenAs
  have agree := conversion_agrees_with_declaration boxDescription boxEntries written
  have declared :
      boxDescription.declared = ⟨.ok boxContract, warningsWithin boxContract.fields⟩ := by
    cbv
  exact ⟨written, _, (agree.1 _ _).mpr declared, declared, by cbv⟩

end Definition

end DataContract
