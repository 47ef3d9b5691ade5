/-
What a value that is read as a field or a contract says.

A map is read as a field exactly if each of its entries is read as the part under its key and the
parts fit together (`field_mapping_eq_ok_iff`). The fields inside it are read one by one from the
items of what it holds for them (`nestedFields_eq_ok_iff`), as are the fields of a contract
(`contract_mapping_eq_ok_iff`).
-/
import DataContract.Reading.Contract
import DataContract.Proofs.Declaration.Building
import DataContract.Proofs.Lists

namespace DataContract.Reading

variable {α : Type} {read : Value → Reading α} {es : List (Value × Value)} {key : String}
  {v : Value} {a : α}

/-! ### Entries and items -/

theorem needed_eq_ok_iff : needed key es read = .ok a ↔
    ∃ v, Value.lookup? (.text key) es = some v ∧ read v = .ok a := by
  rw [needed, under_eq_ok_iff]
  cases Value.lookup? (.text key) es with
  | none => simp [fault]
  | some v => simp

theorem optional_eq_ok_iff {default : α} : optional key default es read = .ok a ↔
    Value.lookup? (.text key) es = none ∧ default = a ∨
      ∃ v, Value.lookup? (.text key) es = some v ∧ read v = .ok a := by
  rw [optional, under_eq_ok_iff]
  cases Value.lookup? (.text key) es with
  | none => simp
  | some v => simp

theorem all_eq_ok_iff {rs : List (Reading α)} {as : List α} :
    all rs = .ok as ↔ List.Forall₂ (fun r a => r = .ok a) rs as := by
  induction rs generalizing as with
  | nil =>
    rw [List.forall₂_nil_left_iff]
    exact ⟨fun h => (Except.ok.inj h).symm, fun h => h ▸ rfl⟩
  | cons r rest ih =>
    simp only [all, map_eq_ok_iff, both_eq_ok_iff, List.forall₂_cons_left_iff, ih]
    constructor
    · rintro ⟨⟨b, bs⟩, ⟨first, others⟩, rfl⟩
      exact ⟨b, bs, first, others, rfl⟩
    · rintro ⟨b, bs, first, others, rfl⟩
      exact ⟨(b, bs), ⟨first, others⟩, rfl⟩

theorem indexed_eq_ok_iff {xs : List Value} {as : List α} :
    indexed read xs = .ok as ↔ List.Forall₂ (fun x a => read x = .ok a) xs as := by
  have fromIndex : ∀ n as, all ((xs.zipIdx n).map fun p => under (.index p.2) (read p.1)) = .ok as ↔
      List.Forall₂ (fun x a => read x = .ok a) xs as := by
    induction xs with
    | nil =>
      intro n as
      rw [List.forall₂_nil_left_iff, all_eq_ok_iff]
      exact List.forall₂_nil_left_iff
    | cons x rest ih =>
      intro n as
      simp only [all_eq_ok_iff, List.zipIdx_cons, List.map_cons, List.forall₂_cons_left_iff,
        under_eq_ok_iff] at ih ⊢
      simp only [ih]
  exact fromIndex 0 as

theorem tupleOf_eq_ok_iff {as : List α} : tupleOf read v = .ok as ↔
    ∃ xs, items v = .ok xs ∧ List.Forall₂ (fun x a => read x = .ok a) xs as := by
  rw [tupleOf]
  cases items v with
  | error e => simp
  | ok xs => simp [indexed_eq_ok_iff]

/-! ### Fields inside -/

/-- A value is read as a field. -/
def ReadsAs (v : Value) (f : Field) : Prop :=
  field v = .ok f

variable {m : MappingKind} {xs : List Value} {fs : List Field} {f : Field}
  {nested : Option (List Field)}

/-- The items of a value are read as fields, one by one. -/
theorem tupleOf_field_eq_ok_iff :
    tupleOf field v = .ok fs ↔ ∃ xs, items v = .ok xs ∧ List.Forall₂ ReadsAs xs fs :=
  tupleOf_eq_ok_iff

theorem indexed_field_eq (xs : List Value) : indexed field xs = all (fieldItems 0 xs) := by
  have fromIndex : ∀ n, (xs.zipIdx n).map (fun p => under (.index p.2) (field p.1)) =
      fieldItems n xs := by
    induction xs with
    | nil => exact fun _ => rfl
    | cons x rest ih =>
      intro n
      rw [List.zipIdx_cons, List.map_cons, ih, fieldItems]
  exact congrArg all (fromIndex 0)

/-- The parts of a record, each a pair with its name, are no fields. -/
theorem indexed_field_parts (parts : List (String × Value)) :
    indexed field (parts.map fun (k, w) => .tuple [.text k, w]) = noFields parts.length := by
  have pair : ∀ k w, field (.tuple [.text k, w]) = fault (.notModel "ContractField") :=
    fun _ _ => rfl
  rw [indexed, noFields]
  congr 1
  refine List.ext_getElem (by simp) fun i _ _ => ?_
  simp [pair]

/-- Fields inside a field are read as a tuple of fields is, but for null. -/
theorem nestedFields_eq (given : v ≠ .null) : nestedFields v = nestedOf (tupleOf field v) := by
  cases v with
  | null => exact absurd rfl given
  | sequence k xs => exact congrArg nestedOf (indexed_field_eq xs).symm
  | set xs => exact congrArg nestedOf (indexed_field_eq xs).symm
  | record model parts => exact congrArg nestedOf (indexed_field_parts parts).symm
  | _ => rfl

theorem nestedOf_all_eq_ok_iff {r : Reading (List Field)} : nestedOf r = .ok nested ↔
    ∃ fs, r = .ok fs ∧ nested = some fs ∧ (fs.map (·.name)).Nodup := by
  cases r with
  | error e => simp [nestedOf]
  | ok fs => simp [nestedOf_eq_ok_iff]

/-- Null gives no fields; any other value gives the fields that its items are read as, with distinct
names. -/
theorem nestedFields_eq_ok_iff : nestedFields v = .ok nested ↔
    v = .null ∧ nested = none ∨ v ≠ .null ∧ ∃ xs fs, items v = .ok xs ∧ nested = some fs ∧
      List.Forall₂ ReadsAs xs fs ∧ (fs.map (·.name)).Nodup := by
  by_cases given : v = .null
  · subst given
    simp [nestedFields, eq_comm]
  · rw [nestedFields_eq given, nestedOf_all_eq_ok_iff]
    simp only [tupleOf_field_eq_ok_iff, given, false_and, false_or, ne_eq, not_false_eq_true,
      true_and]
    constructor
    · rintro ⟨fs, ⟨xs, held, each⟩, rfl, apart⟩
      exact ⟨xs, fs, held, rfl, each, apart⟩
    · rintro ⟨xs, fs, held, rfl, each, apart⟩
      exact ⟨fs, ⟨xs, held, each⟩, rfl, apart⟩

theorem nestedUnder_eq (es : List (Value × Value)) : nestedUnder es =
    (Value.lookup? (.text "nested_fields") es).map fun v =>
      under (.name "nested_fields") (nestedFields v) := by
  induction es with
  | nil => rfl
  | cons e rest ih =>
    obtain ⟨k, v⟩ := e
    rw [nestedUnder, Value.lookup?_cons]
    split
    · rfl
    · exact ih

/-- What entries say of the fields inside a field: nothing, or what stands under their key. -/
def ReadsInside (es : List (Value × Value)) (nested : Option (List Field)) : Prop :=
  Value.lookup? (.text "nested_fields") es = none ∧ nested = none ∨
    ∃ v, Value.lookup? (.text "nested_fields") es = some v ∧ nestedFields v = .ok nested

theorem inside_eq_ok_iff :
    (nestedUnder es).getD (.ok none) = .ok nested ↔ ReadsInside es nested := by
  rw [nestedUnder_eq, ReadsInside]
  cases Value.lookup? (.text "nested_fields") es with
  | none => simp [eq_comm]
  | some v => simp [under_eq_ok_iff]

/-! ### Fields and contracts -/

/-- A map is read as a field exactly if each part that it says is, and they fit together. -/
theorem field_mapping_eq_ok_iff : field (.mapping m es) = .ok f ↔
    (∃ v, Value.lookup? (.text "name") es = some v ∧ nonEmptyText v = .ok f.name) ∧
    (∃ v, Value.lookup? (.text "type") es = some v ∧ fieldType v = .ok f.type) ∧
    optional "required" false es boolean = .ok f.required ∧
    optional "constraints" [] es (tupleOf constraint) = .ok f.constraints ∧
    ReadsInside es f.nested ∧ (f.nested.isSome → f.type = .kind .map) := by
  have fits : ∀ (o : Option (List Field)) (t : FieldType),
      (o.isNone || t == .kind .map) = true ↔ (o.isSome → t = .kind .map) := by
    intro o t
    cases o <;> simp
  rw [field, ← inside_eq_ok_iff, ← needed_eq_ok_iff, ← needed_eq_ok_iff]
  generalize (nestedUnder es).getD (.ok none) = inside
  have parts : fieldOfParts es inside = both (needed "name" es nonEmptyText)
      (both (needed "type" es fieldType) (both (optional "required" false es boolean)
        (both (optional "constraints" [] es (tupleOf constraint)) inside))) >>= fun p =>
          ensure (p.2.2.2.2.isNone || p.2.1 == .kind .map)
            ("field '" ++ p.1 ++ "' of type " ++ p.2.1.name ++ " cannot declare nested fields")
            ⟨p.1, p.2.1, p.2.2.1, p.2.2.2.1, p.2.2.2.2⟩ := by
    unfold fieldOfParts
    dsimp only
    split
    · next failed =>
      rw [failed]
      rfl
    · next read =>
      rw [read]
      rfl
  simp only [parts, bind_eq_ok_iff, both_eq_ok_iff, ensure_eq_ok_iff, fits]
  constructor
  · rintro ⟨⟨n, t, b, cs, o⟩, ⟨named, typed, flagged, constrained, nested⟩, fit, rfl⟩
    exact ⟨named, typed, flagged, constrained, nested, fit⟩
  · rintro ⟨named, typed, flagged, constrained, nested, fit⟩
    exact ⟨(f.name, f.type, f.required, f.constraints, f.nested),
      ⟨named, typed, flagged, constrained, nested⟩, fit, by cases f; rfl⟩

/-- A value that is no map is read as a field only if it is one. -/
theorem field_of_no_mapping (none : v.asEntries? = none) :
    field v = .ok f ↔ Field.ofValue? v = some f := by
  cases v with
  | mapping m es => cases none
  | record model parts =>
    rw [field]
    · cases Field.ofValue? (.record model parts) with
      | none => simp [fault]
      | some g => simp
    · intro m es same
      cases same
  | _ =>
    refine iff_of_false (fun h => ?_) (fun h => ?_)
    · cases h
    · cases h

/-- A map is read as a contract exactly if its name is not empty and its fields are read and have
distinct names. -/
theorem contract_mapping_eq_ok_iff {c : Contract} : contract (.mapping m es) = .ok c ↔
    (∃ v, Value.lookup? (.text "name") es = some v ∧ nonEmptyText v = .ok c.name) ∧
    (Value.lookup? (.text "fields") es = none ∧ c.fields = [] ∨
      ∃ v items, Value.lookup? (.text "fields") es = some v ∧ Reading.items v = .ok items ∧
        List.Forall₂ ReadsAs items c.fields) ∧
    (c.fields.map (·.name)).Nodup := by
  have whole : contract (.mapping m es) = (both (needed "name" es nonEmptyText)
      (optional "fields" [] es fun w => tupleOf field w >>= distinct)).map fun p => ⟨p.1, p.2⟩ := by
    refine congrArg (fun read : Value → Reading (List Field) =>
      (both (needed "name" es nonEmptyText) (optional "fields" [] es read)).map
        fun p => (⟨p.1, p.2⟩ : Contract)) (funext fun w => ?_)
    cases tupleOf field w <;> rfl
  simp only [whole, map_eq_ok_iff, both_eq_ok_iff, needed_eq_ok_iff, optional_eq_ok_iff,
    bind_eq_ok_iff, distinct_eq_ok_iff, tupleOf_eq_ok_iff]
  constructor
  · rintro ⟨⟨n, _⟩, ⟨named, ⟨absent, rfl⟩ | ⟨w, held, fs, ⟨items, given, each⟩, rfl, apart⟩⟩, rfl⟩
    · exact ⟨named, .inl ⟨absent, rfl⟩, List.nodup_nil⟩
    · exact ⟨named, .inr ⟨w, items, held, given, each⟩, apart⟩
  · rintro ⟨named, ⟨absent, none⟩ | ⟨w, items, held, given, each⟩, apart⟩
    · exact ⟨(c.name, c.fields), ⟨named, .inl ⟨absent, none.symm⟩⟩, rfl⟩
    · exact ⟨(c.name, c.fields),
        ⟨named, .inr ⟨w, held, c.fields, ⟨items, given, each⟩, rfl, apart⟩⟩, rfl⟩

end DataContract.Reading
