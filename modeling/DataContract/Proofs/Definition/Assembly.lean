/-
What a successful conversion is put together of.

An entry is converted into a field exactly if each part that it writes is and they fit together; the
warnings for the fields inside it come before its own (`fieldOf_mapping_eq_ok_iff`). Entries are
converted one after the other (`fieldsOf_cons_eq_ok_iff`), and a contract is made of what they are
converted into (`contractOf_eq_ok_iff`). The entries inside an entry may be held by any value that
can be gone through (`nestedOf_result_eq_ok_iff`).
-/
import DataContract.Definition.Conversion
import DataContract.Proofs.Declaration.Building
import DataContract.Proofs.Definition.Grammar

namespace DataContract.Definition

variable {es : List (Value × Value)} {m : MappingKind} {cs : List Constraint} {f : Field}
  {nested : Noted ConversionFault (Option (List Field))} {notes : List LogEntry}
  {name type required : Value} {t : FieldType} {inner : Option (List Field)}

/-! ### One entry -/

theorem atKey_eq_ok_iff {key : String} {v : Value} :
    atKey key es = .ok v ↔ Value.lookup? (.text key) es = some v := by
  unfold atKey
  split <;> simp_all

/-- The parts of a field, read together. -/
def readParts (name : Value) (type : FieldType) (required : Value) (cs : List Constraint)
    (nested : Option (List Field)) : Reading Field :=
  Reading.both (Reading.under (.name "name") (Reading.nonEmptyText name))
    (Reading.both (Reading.under (.name "required") (Reading.boolean required))
      (Reading.given nested)) >>= fun p =>
        Reading.ensure (p.2.2.isNone || type == .kind .map)
          ("field '" ++ p.1 ++ "' of type " ++ type.name ++ " cannot declare nested fields")
          ⟨p.1, type, p.2.1, cs, p.2.2⟩

theorem readParts_eq_ok_iff : readParts name t required cs inner = .ok f ↔
    Reading.nonEmptyText name = .ok f.name ∧ Reading.boolean required = .ok f.required ∧
      f.type = t ∧ f.constraints = cs ∧ f.nested = inner ∧ DistinctNames inner ∧
      (inner.isSome → t = .kind .map) := by
  have fits : ∀ o : Option (List Field),
      (o.isNone || t == .kind .map) = true ↔ (o.isSome → t = .kind .map) := by
    intro o
    cases o <;> simp
  simp only [readParts, bind_eq_ok_iff, Reading.both_eq_ok_iff, Reading.under_eq_ok_iff,
    Reading.given_eq_ok_iff, Reading.ensure_eq_ok_iff, fits]
  constructor
  · rintro ⟨⟨n, b, o⟩, ⟨named, flagged, rfl, distinct⟩, fits, rfl⟩
    exact ⟨named, flagged, rfl, rfl, rfl, distinct, fits⟩
  · rintro ⟨named, flagged, rfl, rfl, rfl, distinct, fits⟩
    exact ⟨(f.name, f.required, f.nested), ⟨named, flagged, rfl, distinct⟩, fits, by cases f; rfl⟩

theorem assembleField_eq : assembleField es cs nested = (do
    let name ← Noted.of (atKey "name" es)
    let written ← Noted.of (atKey "type" es)
    let type ← Noted.of (typeOf written)
    let inner ← nested
    let f ← Noted.of ((DeclarationFault.ofReading "ContractField" (readParts name type
      ((Value.lookup? (.text "required") es).getD (.bool false)) cs inner)).mapError
        ConversionFault.declaration)
    Noted.noteAll f.warnings
    return f) := by
  unfold assembleField
  refine bind_congr fun name => bind_congr fun written => bind_congr fun type => ?_
  refine bind_congr fun inner => ?_
  -- what is left to compare is how the parts are read together
  refine congrArg (fun whole : Reading Field => (do
    let f ← declare (DeclarationFault.ofReading "ContractField" whole)
    Noted.noteAll f.warnings
    return f : Noted ConversionFault Field)) ?_
  unfold readParts
  cases inner with
  | none | some fields =>
    dsimp only [Reading.given]
    split
    · next parts =>
      rw [parts]
      rfl
    · next parts =>
      rw [parts]
      rfl

/-- An entry is put together exactly if each part that it writes is read and they fit together. -/
theorem assembleField_eq_ok_iff : assembleField es cs nested = ⟨.ok f, notes⟩ ↔
    (∃ v, Value.lookup? (.text "name") es = some v ∧ Reading.nonEmptyText v = .ok f.name) ∧
    (∃ v, Value.lookup? (.text "type") es = some v ∧ typeOf v = .ok f.type) ∧
    Reading.boolean ((Value.lookup? (.text "required") es).getD (.bool false)) = .ok f.required ∧
    f.constraints = cs ∧
      (∃ before, nested = ⟨.ok f.nested, before⟩ ∧ notes = before ++ f.warnings) ∧
    DistinctNames f.nested ∧ (f.nested.isSome → f.type = .kind .map) := by
  rw [assembleField_eq]
  simp only [Noted.of_bind_eq_ok_iff, @Noted.bind_eq_ok_iff _ _ _ nested, atKey_eq_ok_iff,
    mapError_eq_ok_iff, DeclarationFault.ofReading_eq_ok_iff, readParts_eq_ok_iff,
    Noted.noteAll_pure_eq_ok_iff]
  constructor
  · rintro ⟨v, name, w, written, t, type, _, before, after, rfl,
      ⟨_, ⟨named, flagged, rfl, rfl, rfl, distinct, fits⟩, rfl, rfl⟩, rfl⟩
    exact ⟨⟨v, name, named⟩, ⟨w, written, type⟩, flagged, rfl, ⟨before, rfl, rfl⟩, distinct, fits⟩
  · rintro ⟨⟨v, name, named⟩, ⟨w, written, type⟩, flagged, rfl, ⟨before, rfl, rfl⟩, distinct, fits⟩
    exact ⟨v, name, w, written, f.type, type, f.nested, before, f.warnings, rfl,
      ⟨f, ⟨named, flagged, rfl, rfl, rfl, distinct, fits⟩, rfl, rfl⟩, rfl⟩

/-! ### Constraints -/

/-- A map from one keyword declares a constraint. -/
def DeclaresAlone (item : Value) (c : Constraint) : Prop :=
  ∃ m keyword v, item = .mapping m [(keyword, v)] ∧ Constraint.declared keyword v = .ok c

theorem constraintsOfItem_eq_ok_iff {keyword v : Value} :
    constraintsOfItem (.mapping m [(keyword, v)]) = .ok cs ↔
      ∃ c, cs = [c] ∧ DeclaresAlone (.mapping m [(keyword, v)]) c := by
  simp only [constraintsOfItem, Value.asEntries?, mapError_eq_ok_iff, Constraint.declaredAll,
    bind_eq_ok_iff, pure_eq_ok_iff]
  constructor
  · rintro ⟨c, declared, _, ⟨⟩, rfl⟩
    exact ⟨c, rfl, m, keyword, v, rfl, declared⟩
  · rintro ⟨c, rfl, _, _, _, ⟨⟩, declared⟩
    exact ⟨c, declared, [], rfl, rfl⟩

/-- Items that are maps from one keyword each are converted into the constraints they declare, in
order. -/
theorem constraintsOfItems_eq_ok_iff {items : List Value}
    (single : ∀ item ∈ items, ∃ m keyword v, item = .mapping m [(keyword, v)]) :
    constraintsOfItems items = .ok cs ↔ List.Forall₂ DeclaresAlone items cs := by
  induction items generalizing cs with
  | nil =>
    rw [List.forall₂_nil_left_iff]
    exact ⟨fun h => (Except.ok.inj h).symm, fun h => h ▸ rfl⟩
  | cons item rest ih =>
    obtain ⟨⟨m, keyword, v, rfl⟩, behind⟩ := List.forall_mem_cons.mp single
    simp only [constraintsOfItems, bind_eq_ok_iff, pure_eq_ok_iff, ih behind,
      constraintsOfItem_eq_ok_iff, List.forall₂_cons_left_iff]
    constructor
    · rintro ⟨_, ⟨c, rfl, first⟩, others, later, rfl⟩
      exact ⟨c, others, first, later, rfl⟩
    · rintro ⟨c, others, first, later, rfl⟩
      exact ⟨[c], ⟨c, rfl, first⟩, others, later, rfl⟩

/-- The constraints of an entry are those of the list it holds; it may leave out an empty one. -/
theorem constraintsOf_list {items : List Value}
    (held : arrayItems? ((Value.lookup? (.text "constraints") es).getD (.list [])) = some items) :
    constraintsOf es = constraintsOfItems items := by
  unfold constraintsOf
  split
  · next none =>
    rw [none] at held
    cases held
    rfl
  · next v some =>
    rw [some, Option.getD_some] at held
    obtain ⟨k, -, rfl⟩ := arrayItems?_eq_some_iff.mp held
    rfl

/-! ### Fields inside -/

theorem nestedUnder_eq (es : List (Value × Value)) :
    nestedUnder es = (Value.lookup? (.text "fields") es).map nestedOf := by
  induction es with
  | nil => rfl
  | cons e rest ih =>
    obtain ⟨k, v⟩ := e
    rw [nestedUnder, Value.lookup?_cons]
    split
    · rfl
    · exact ih

/-- What stands under the key for an entry's own fields, converted; nothing if there is no such
key. -/
def convertedInside (es : List (Value × Value)) : Noted ConversionFault (Option (List Field)) :=
  ((Value.lookup? (.text "fields") es).map nestedOf).getD (.ok none)

/-- An entry is converted exactly if its constraints are and the rest is put together with them. -/
theorem fieldOf_mapping_eq_ok_iff : fieldOf (.mapping m es) = ⟨.ok f, notes⟩ ↔
    constraintsOf es = .ok f.constraints ∧
    (∃ v, Value.lookup? (.text "name") es = some v ∧ Reading.nonEmptyText v = .ok f.name) ∧
    (∃ v, Value.lookup? (.text "type") es = some v ∧ typeOf v = .ok f.type) ∧
    Reading.boolean ((Value.lookup? (.text "required") es).getD (.bool false)) = .ok f.required ∧
    (∃ before, convertedInside es = ⟨.ok f.nested, before⟩ ∧ notes = before ++ f.warnings) ∧
    DistinctNames f.nested ∧ (f.nested.isSome → f.type = .kind .map) := by
  rw [fieldOf, nestedUnder_eq, ← convertedInside, Noted.of_bind_eq_ok_iff]
  simp only [assembleField_eq_ok_iff]
  constructor
  · rintro ⟨_, constraints, named, typed, flagged, rfl, rest⟩
    exact ⟨constraints, named, typed, flagged, rest⟩
  · rintro ⟨constraints, named, typed, flagged, rest⟩
    exact ⟨f.constraints, constraints, named, typed, flagged, rfl, rest⟩

/-! ### Entries in order -/

theorem nestedOf_sequence_eq_ok_iff {k : SequenceKind} {items : List Value} :
    nestedOf (.sequence k items) = ⟨.ok inner, notes⟩ ↔
      ∃ fs, some fs = inner ∧ fieldsOf items = ⟨.ok fs, notes⟩ := by
  rw [nestedOf, Noted.bind_pure_eq_ok_iff]

theorem fieldsOf_cons_eq_ok_iff {v : Value} {rest : List Value} {fs : List Field} :
    fieldsOf (v :: rest) = ⟨.ok fs, notes⟩ ↔
      ∃ f others first after, fs = f :: others ∧ notes = first ++ after ∧
        fieldOf v = ⟨.ok f, first⟩ ∧ fieldsOf rest = ⟨.ok others, after⟩ := by
  rw [fieldsOf, Noted.bind_cons_eq_ok_iff]

/-- A contract is made of the fields that a list of entries is converted into. -/
theorem contractOf_eq_ok_iff {k : SequenceKind} {items : List Value} {c : Contract} :
    contractOf name (.sequence k items) = ⟨.ok c, notes⟩ ↔
      Reading.nonEmptyText name = .ok c.name ∧ (c.fields.map (·.name)).Nodup ∧
        fieldsOf items = ⟨.ok c.fields, notes⟩ := by
  rw [contractOf]
  · simp only [Noted.bind_eq_ok_iff, nestedOf_sequence_eq_ok_iff, declare, Noted.mapError_eq_ok_iff,
      Noted.of_eq_ok_iff, Contract.declared_eq_ok_iff]
    constructor
    · rintro ⟨_, first, _, ⟨fs, rfl, converted⟩, ⟨⟨named, rfl, distinct⟩, rfl⟩, rfl⟩
      exact ⟨named, distinct, by rw [converted, List.append_nil]⟩
    · rintro ⟨named, distinct, converted⟩
      exact ⟨some c.fields, notes, [], ⟨c.fields, rfl, converted⟩, ⟨⟨named, rfl, distinct⟩, rfl⟩,
        by rw [List.append_nil]⟩
  · intro null
    cases null

/-! ### Results alone -/

/-- An entry is converted into a field, whatever warnings are written. -/
def ConvertsTo (entry : Value) (f : Field) : Prop :=
  (fieldOf entry).result = .ok f

theorem convertsTo_iff {entry : Value} :
    ConvertsTo entry f ↔ ∃ notes, fieldOf entry = ⟨.ok f, notes⟩ :=
  Noted.result_eq_ok_iff

theorem convertsTo_mapping_iff : ConvertsTo (.mapping m es) f ↔
    constraintsOf es = .ok f.constraints ∧
    (∃ v, Value.lookup? (.text "name") es = some v ∧ Reading.nonEmptyText v = .ok f.name) ∧
    (∃ v, Value.lookup? (.text "type") es = some v ∧ typeOf v = .ok f.type) ∧
    Reading.boolean ((Value.lookup? (.text "required") es).getD (.bool false)) = .ok f.required ∧
    (convertedInside es).result = .ok f.nested ∧
    DistinctNames f.nested ∧ (f.nested.isSome → f.type = .kind .map) := by
  simp only [convertsTo_iff, Noted.result_eq_ok_iff, fieldOf_mapping_eq_ok_iff]
  constructor
  · rintro ⟨_, constraints, named, typed, flagged, ⟨before, inside, -⟩, rest⟩
    exact ⟨constraints, named, typed, flagged, ⟨before, inside⟩, rest⟩
  · rintro ⟨constraints, named, typed, flagged, ⟨before, inside⟩, rest⟩
    exact ⟨_, constraints, named, typed, flagged, ⟨before, inside, rfl⟩, rest⟩

theorem fieldsOf_result_eq_ok_iff {items : List Value} {fs : List Field} :
    (fieldsOf items).result = .ok fs ↔
      List.Forall₂ ConvertsTo items fs := by
  induction items generalizing fs with
  | nil =>
    rw [List.forall₂_nil_left_iff]
    exact ⟨fun h => (Except.ok.inj h).symm, fun h => h ▸ rfl⟩
  | cons v rest ih =>
    simp only [List.forall₂_cons_left_iff, ← ih, convertsTo_iff, Noted.result_eq_ok_iff,
      fieldsOf_cons_eq_ok_iff]
    constructor
    · rintro ⟨_, f, others, first, after, rfl, rfl, hf, ho⟩
      exact ⟨f, others, ⟨first, hf⟩, ⟨after, ho⟩, rfl⟩
    · rintro ⟨f, others, ⟨first, hf⟩, ⟨after, ho⟩, rfl⟩
      exact ⟨_, f, others, first, after, rfl, rfl, hf, ho⟩

theorem convertedInside_result_of_absent (absent : Value.lookup? (.text "fields") es = none) :
    (convertedInside es).result = .ok inner ↔ inner = none := by
  rw [convertedInside, absent]
  exact ⟨fun h => (Except.ok.inj h).symm, fun h => h ▸ rfl⟩

theorem convertedInside_result_of_list {items : List Value} {k : SequenceKind}
    (held : Value.lookup? (.text "fields") es = some (.sequence k items)) :
    (convertedInside es).result = .ok inner ↔
      ∃ fs, inner = some fs ∧ List.Forall₂ ConvertsTo items fs := by
  rw [convertedInside, held, Option.map_some, Option.getD_some]
  simp only [← fieldsOf_result_eq_ok_iff, Noted.result_eq_ok_iff, nestedOf_sequence_eq_ok_iff]
  constructor
  · rintro ⟨notes, fs, rfl, h⟩
    exact ⟨fs, rfl, notes, h⟩
  · rintro ⟨fs, rfl, notes, h⟩
    exact ⟨notes, fs, rfl, h⟩

theorem contractOf_result_eq_ok_iff {k : SequenceKind} {items : List Value} {c : Contract} :
    (contractOf name (.sequence k items)).result = .ok c ↔
      Reading.nonEmptyText name = .ok c.name ∧ (c.fields.map (·.name)).Nodup ∧
        List.Forall₂ ConvertsTo items c.fields := by
  simp only [← fieldsOf_result_eq_ok_iff, Noted.result_eq_ok_iff, contractOf_eq_ok_iff]
  constructor
  · rintro ⟨notes, named, distinct, h⟩
    exact ⟨named, distinct, notes, h⟩
  · rintro ⟨named, distinct, notes, h⟩
    exact ⟨notes, named, distinct, h⟩

/-! ### Whatever holds the entries -/

theorem fieldOf_of_no_mapping {v : Value} (none : v.asEntries? = none) :
    fieldOf v = .fail (.notMap v.qualifiedTypeName "get") := by
  cases v with
  | mapping m es => cases none
  | _ => rfl

/-- Of items that are no maps the first is refused, if there is one. -/
theorem fieldsOf_of_no_mappings {items : List Value} {kind : String}
    (none : ∀ x ∈ items, x.asEntries? = none ∧ x.qualifiedTypeName = kind) :
    fieldsOf items = noEntries kind items.length := by
  cases items with
  | nil => rfl
  | cons x rest =>
    obtain ⟨noMap, rfl⟩ := none x List.mem_cons_self
    rw [fieldsOf, fieldOf_of_no_mapping noMap]
    rfl

theorem fieldsOfKeys_eq (es : List (Value × Value)) :
    fieldsOfKeys es = fieldsOf (es.map (·.1)) := by
  induction es with
  | nil => rfl
  | cons e rest ih => rw [fieldsOfKeys, List.map_cons, fieldsOf, ih]

/-- The fields inside an entry, whatever holds them: those of the items it is gone through in. -/
def fieldsGoneThrough (v : Value) : Noted ConversionFault (List Field) :=
  match v.iterate? with
  | none => .fail (.notIterable v.qualifiedTypeName)
  | some items => fieldsOf items

theorem fieldsGoneThrough_of_no_mappings {v : Value} {items : List Value} {kind : String} {n : Nat}
    (held : v.iterate? = some items) (length : items.length = n)
    (none : ∀ x ∈ items, x.asEntries? = none ∧ x.qualifiedTypeName = kind) :
    fieldsGoneThrough v = noEntries kind n := by
  rw [fieldsGoneThrough, held, ← length]
  exact fieldsOf_of_no_mappings none

theorem iterate?_of_text {v : Value} {items : List Value} {s : String} (text : v.asText? = some s)
    (held : v.iterate? = some items) : items.length = s.length ∧
      ∀ x ∈ items, x.asEntries? = none ∧ x.qualifiedTypeName = "str" := by
  simp only [Value.iterate?, text, Option.some.injEq] at held
  subst held
  refine ⟨by rw [List.length_map, String.length_toList], ?_⟩
  rw [List.forall_mem_map]
  exact fun c _ => ⟨rfl, rfl⟩

/-- Fields inside an entry are converted from the items of whatever holds them, but for null. -/
theorem nestedOf_eq {v : Value} (given : v ≠ .null) :
    nestedOf v = (do let fs ← fieldsGoneThrough v; return some fs) := by
  cases v with
  | null => exact absurd rfl given
  | mapping m es =>
    rw [nestedOf, fieldsOfKeys_eq]
    rfl
  | text s =>
    obtain ⟨length, none⟩ := iterate?_of_text (v := .text s) rfl rfl
    rw [nestedOf, fieldsGoneThrough_of_no_mappings rfl length none]
  | bytes b =>
    have none : ∀ x ∈ b.map fun n => Value.int n.toNat,
        x.asEntries? = none ∧ x.qualifiedTypeName = "int" := by
      rw [List.forall_mem_map]
      exact fun n _ => ⟨rfl, rfl⟩
    rw [nestedOf, fieldsGoneThrough_of_no_mappings rfl (List.length_map _) none]
  | record model parts =>
    have none : ∀ x ∈ parts.map fun p => Value.tuple [.text p.1, p.2],
        x.asEntries? = none ∧ x.qualifiedTypeName = "tuple" := by
      rw [List.forall_mem_map]
      exact fun n _ => ⟨rfl, rfl⟩
    rw [nestedOf, fieldsGoneThrough_of_no_mappings rfl (List.length_map _) none]
  | atom a =>
    rw [nestedOf]
    cases held : (Value.atom a).iterate? with
    | none => simp only [fieldsGoneThrough, held]; rfl
    | some items =>
      obtain ⟨s, text⟩ : ∃ s, (Value.atom a).asText? = some s := by
        cases text : (Value.atom a).asText? with
        | none => simp [Value.iterate?, text] at held
        | some s => exact ⟨s, rfl⟩
      obtain ⟨-, none⟩ := iterate?_of_text text held
      rw [fieldsGoneThrough_of_no_mappings held rfl none]
  | _ => rfl

theorem nestedOf_result_eq_ok_iff {v : Value} : (nestedOf v).result = .ok inner ↔
    v = .null ∧ inner = none ∨ v ≠ .null ∧ ∃ items fs, v.iterate? = some items ∧ inner = some fs ∧
      List.Forall₂ ConvertsTo items fs := by
  by_cases given : v = .null
  · subst given
    simp [nestedOf, Noted.ok, eq_comm]
  · rw [nestedOf_eq given, Noted.result_bind, bind_eq_ok_iff, fieldsGoneThrough]
    simp only [given, false_and, false_or, ne_eq, not_false_eq_true, true_and]
    cases held : v.iterate? with
    | none =>
      refine iff_of_false ?_ ?_
      · rintro ⟨_, ⟨⟩, -⟩
      · rintro ⟨_, _, ⟨⟩, -⟩
    | some items =>
      constructor
      · rintro ⟨fs, converted, ⟨⟩⟩
        exact ⟨items, fs, rfl, rfl, fieldsOf_result_eq_ok_iff.mp converted⟩
      · rintro ⟨_, fs, ⟨⟩, rfl, converted⟩
        exact ⟨fs, fieldsOf_result_eq_ok_iff.mpr converted, rfl⟩

theorem convertedInside_result_eq_ok_iff : (convertedInside es).result = .ok inner ↔
    Value.lookup? (.text "fields") es = none ∧ inner = none ∨
      ∃ v, Value.lookup? (.text "fields") es = some v ∧ (nestedOf v).result = .ok inner := by
  rw [convertedInside]
  cases Value.lookup? (.text "fields") es with
  | none => simp [Noted.ok, eq_comm]
  | some v => simp

theorem exists_mapping_of_convertsTo {entry : Value} (h : ConvertsTo entry f) :
    ∃ m es, entry = .mapping m es := by
  cases maps : entry.asEntries? with
  | none =>
    rw [ConvertsTo, fieldOf_of_no_mapping maps] at h
    cases h
  | some es =>
    obtain ⟨m, same⟩ := Value.exists_mapping_of_asEntries? maps
    exact ⟨m, es, same⟩

/-- A contract is made of the fields that the items of whatever holds them are converted into. -/
theorem contractOf_goneThrough_eq_ok_iff {v : Value} {c : Contract} :
    (contractOf name v).result = .ok c ↔
      Reading.nonEmptyText name = .ok c.name ∧ (c.fields.map (·.name)).Nodup ∧
        ∃ items, v.iterate? = some items ∧ List.Forall₂ ConvertsTo items c.fields := by
  by_cases given : v = .null
  · subst given
    refine iff_of_false (fun h => by cases h) ?_
    rintro ⟨-, -, _, ⟨⟩, -⟩
  · rw [contractOf]
    · simp only [Noted.result_bind, bind_eq_ok_iff, nestedOf_result_eq_ok_iff, declare,
        Noted.mapError, Noted.of, mapError_eq_ok_iff, Contract.declared_eq_ok_iff]
      constructor
      · rintro ⟨_, ⟨null, -⟩ | ⟨-, items, fs, held, rfl, converted⟩, named, all, distinct⟩
        · exact absurd null given
        · obtain rfl : c.fields = fs := all
          exact ⟨named, distinct, items, held, converted⟩
      · rintro ⟨named, distinct, items, held, converted⟩
        exact ⟨some c.fields, .inr ⟨given, items, c.fields, held, rfl, converted⟩, named, rfl,
          distinct⟩
    · exact given

end DataContract.Definition
