/-
What the entries of a document write.

An entry that follows the format writes at most one field (`WritesField`): with the name, the type
and the flag that stand in it, its constraints in order (`WritesConstraint`), and the fields that
its own entries write. The entry is converted into a field exactly if it writes this field and the
field keeps the rules of contracts (`convertsTo_iff_writes`); so are lists of entries converted
into contracts (`contractOf_eq_ok_iff_writes`). Lengths are taken to be integers, since not every
double that is a whole number is read as one.
-/
import DataContract.Proofs.Definition.Conversion
import DataContract.Proofs.Lists

namespace DataContract

open Definition (arrayItems? arrayItems?_eq_some_iff)

/-! ### Constraints -/

/-- What stands beside its keyword configures a constraint. -/
def Constraint.IsConfiguredBy (c : Constraint) (v : Value) : Prop :=
  match c with
  | .format p => ∃ s, v.asText? = some s ∧ Pattern.read? (.text s) .off = .ok p
  | .minLength n | .maxLength n => v.asNumber? = some (.int n)
  | .min b | .max b => ∃ x, v.asNumber? = some x ∧ b = .number x
  | .oneOf values => arrayItems? v = some values

/-- A map from a keyword gives the keyword a value. -/
def Gives (item : Value) (k : ConstraintKind) (v : Value) : Prop :=
  ∃ m key, item = .mapping m [(key, v)] ∧ key.asText? = some k.keyword

/-- An item of a list of constraints writes a constraint. -/
def WritesConstraint (item : Value) (c : Constraint) : Prop :=
  ∃ v, Gives item c.kind v ∧ c.IsConfiguredBy v

/-- What is given for a length is an integer. -/
def IntegralLength (item : Value) : Prop :=
  ∀ k v, k = .minLength ∨ k = .maxLength → Gives item k v → ∃ n, v.asNumber? = some (.int n)

theorem gives_unique {item v v' : Value} {k k' : ConstraintKind} (h : Gives item k v)
    (h' : Gives item k' v') : k = k' ∧ v = v' := by
  obtain ⟨m, key, rfl, keyword⟩ := h
  obtain ⟨_, _, ⟨⟩, keyword'⟩ := h'
  exact ⟨ConstraintKind.keyword_inj (Option.some.inj (keyword.symm.trans keyword')), rfl⟩

theorem IsConstraint.gives {item : Value} (h : IsConstraint item) :
    ∃ k v, Gives item k v ∧ k.Admits v := by
  cases h with
  | @intro m key v k object keyword admitted => exact ⟨k, v, ⟨m, key, rfl, keyword⟩, admitted⟩

namespace Constraint

variable {k : ConstraintKind} {v : Value} {c : Constraint}

/-- A natural number is given for a length, if it is an integer at all. -/
theorem length_given (admitted : ∃ x n, v.asNumber? = some x ∧ x.whole? = some n ∧ 0 ≤ n)
    (integral : ∃ n, v.asNumber? = some (.int n)) : ∃ n : Nat, v.asNumber? = some (.int n) := by
  obtain ⟨x, n, number, whole, high⟩ := admitted
  obtain ⟨m, integer⟩ := integral
  obtain rfl : x = .int m := Option.some.inj (number.symm.trans integer)
  cases whole
  exact ⟨n.toNat, by rw [Int.toNat_of_nonneg high, integer]⟩

/-- A keyword with what may stand beside it is read as a constraint that this configures. -/
theorem ofKind_eq_ok_iff (admitted : k.Admits v)
    (integral : k = .minLength ∨ k = .maxLength → ∃ n, v.asNumber? = some (.int n)) :
    ofKind k v = .ok c ↔ c.kind = k ∧ c.IsConfiguredBy v := by
  cases k with
  | oneOf =>
    obtain ⟨first, rest, list⟩ := admitted
    have read : ofKind .oneOf v = .ok (oneOf (first :: rest)) := by
      obtain ⟨s, -, rfl⟩ := arrayItems?_eq_some_iff.mp list
      rfl
    rw [read]
    cases c <;> simp [kind, IsConfiguredBy, list]
  | format =>
    obtain ⟨s, text⟩ := admitted
    simp only [ofKind, DeclarationFault.ofReading_eq_ok_iff, Reading.parameter, Reading.needed_eq,
      map_eq_ok_iff, Reading.under_eq_ok_iff, Reading.pattern_eq_ok_iff text]
    cases c <;> simp [kind, IsConfiguredBy, text]
  | minLength | maxLength =>
    obtain ⟨n, number⟩ := length_given admitted (integral (by simp))
    simp only [ofKind, DeclarationFault.ofReading_eq_ok_iff, Reading.parameter, Reading.needed_eq,
      map_eq_ok_iff, Reading.under_eq_ok_iff, Reading.length_of_integer number]
    cases c <;> simp [kind, IsConfiguredBy, number]
  | min | max =>
    obtain ⟨x, number⟩ := admitted
    simp only [ofKind, DeclarationFault.ofReading_eq_ok_iff, Reading.parameter, Reading.needed_eq,
      map_eq_ok_iff, Reading.under_eq_ok_iff, Reading.bound_of_number number]
    cases c <;> simp [kind, IsConfiguredBy, number, eq_comm]

end Constraint

/-! ### Fields -/

/-- What a map holds under a text. -/
def Value.under? (v : Value) (key : String) : Option Value :=
  v.asEntries?.bind (lookup? (.text key))

/-- An entry writes the parts of a field, apart from the fields inside it. An entry without a flag
writes that the field is not required, one without constraints that there are none. -/
structure WritesParts (entry : Value) (f : Field) : Prop where
  name : ∃ v, entry.under? "name" = some v ∧ v.asText? = some f.name
  type : ∃ v, entry.under? "type" = some v ∧ WritesType v f.type
  required : (entry.under? "required").getD (.bool false) = .bool f.required
  constraints : ∃ items, arrayItems? ((entry.under? "constraints").getD (.list [])) = some items ∧
    List.Forall₂ WritesConstraint items f.constraints

/-- An entry writes a field, and the entries under `fields`, if there are any, the fields inside
it. -/
inductive WritesField : Value → Field → Prop where
  | plain {entry : Value} {f : Field} (parts : WritesParts entry f)
    (absent : entry.under? "fields" = none) (none : f.nested = none) : WritesField entry f
  | nesting {entry v : Value} {f : Field} {items : List Value} {fields : List Field}
    (parts : WritesParts entry f) (held : entry.under? "fields" = some v)
    (list : arrayItems? v = some items) (nested : f.nested = some fields)
    (inside : List.Forall₂ WritesField items fields) : WritesField entry f

theorem WritesField.parts {entry : Value} {f : Field} (h : WritesField entry f) :
    WritesParts entry f := by
  cases h with
  | plain parts => exact parts
  | nesting parts => exact parts

/-- A name with a list of entries writes a contract. -/
def WritesContract (e : Value × Value) (c : Contract) : Prop :=
  Reading.text e.1 = .ok c.name ∧
    ∃ items, arrayItems? e.2 = some items ∧ List.Forall₂ WritesField items c.fields

/-- A list of entries is a value, or stands under `fields` in one of its entries, at any depth. -/
inductive ListWithin (l : List Value) : Value → Prop where
  | here {v : Value} (list : arrayItems? v = some l) : ListWithin l v
  | inside {v : Value} {items : List Value} {entry w : Value} (list : arrayItems? v = some items)
    (mem : entry ∈ items) (held : entry.under? "fields" = some w) (within : ListWithin l w) :
    ListWithin l v

/-- The lengths of an entry's own constraints are integers. -/
def IntegralEntry (entry : Value) : Prop :=
  ∀ v items, entry.under? "constraints" = some v → arrayItems? v = some items →
    ∀ item ∈ items, IntegralLength item

/-- So are those of all entries of a list, at any depth. -/
def IntegralWithin (fields : Value) : Prop :=
  ∀ l, ListWithin l fields → ∀ entry ∈ l, IntegralEntry entry

theorem IntegralWithin.entry {v : Value} {items : List Value} (h : IntegralWithin v)
    (list : arrayItems? v = some items) {entry : Value} (mem : entry ∈ items) : IntegralEntry entry :=
  h items (.here list) entry mem

theorem IntegralWithin.inside {v : Value} {items : List Value} (h : IntegralWithin v)
    (list : arrayItems? v = some items) {entry w : Value} (mem : entry ∈ items)
    (held : entry.under? "fields" = some w) : IntegralWithin w :=
  fun l within => h l (.inside list mem held within)

namespace Definition

variable {v : Value} {f : Field} {items : List Value} {es : List (Value × Value)}
  {m : MappingKind}

theorem declaresAlone_iff_writes {item : Value} {c : Constraint} (constraint : IsConstraint item)
    (integral : IntegralLength item) : DeclaresAlone item c ↔ WritesConstraint item c := by
  cases constraint with
  | @intro m key v k object keyword admitted =>
    have gives : Gives (.mapping m [(key, v)]) k v := ⟨m, key, rfl, keyword⟩
    have declared : DeclaresAlone (.mapping m [(key, v)]) c ↔ Constraint.ofKind k v = .ok c := by
      constructor
      · rintro ⟨_, _, _, ⟨⟩, declared⟩
        rwa [Constraint.declared_of_keyword keyword] at declared
      · intro h
        exact ⟨m, key, v, rfl, by rwa [Constraint.declared_of_keyword keyword]⟩
    rw [declared, Constraint.ofKind_eq_ok_iff admitted fun length => integral k v length gives]
    constructor
    · rintro ⟨rfl, configured⟩
      exact ⟨v, gives, configured⟩
    · rintro ⟨w, gives', configured⟩
      obtain ⟨kind, rfl⟩ := gives_unique gives' gives
      exact ⟨kind, configured⟩

/-- The flag of an entry that follows the format; it may be left out. -/
theorem flag_given
    (flagged : ∀ v, Value.lookup? (.text "required") es = some v → ∃ b, v = .bool b) :
    ∃ b, (Value.lookup? (.text "required") es).getD (.bool false) = .bool b := by
  cases held : Value.lookup? (.text "required") es with
  | none => exact ⟨false, rfl⟩
  | some v => exact flagged v held

/-- The items of its list of constraints; it may be left out. -/
theorem constraints_given
    (constrained : ∀ v, Value.lookup? (.text "constraints") es = some v →
      ∃ items, arrayItems? v = some items ∧ ∀ item ∈ items, IsConstraint item) :
    ∃ items, arrayItems? ((Value.lookup? (.text "constraints") es).getD (.list [])) = some items ∧
      ∀ item ∈ items, IsConstraint item ∧ ∃ v,
        Value.lookup? (.text "constraints") es = some v ∧ arrayItems? v = some items := by
  cases held : Value.lookup? (.text "constraints") es with
  | none => exact ⟨[], rfl, List.forall_mem_nil _⟩
  | some v =>
    obtain ⟨items, list, each⟩ := constrained v held
    exact ⟨items, list, fun item mem => ⟨each item mem, v, rfl, list⟩⟩

theorem constraintsOf_eq_ok_iff_writes {cs : List Constraint}
    (constrained : ∀ v, Value.lookup? (.text "constraints") es = some v →
      ∃ items, arrayItems? v = some items ∧ ∀ item ∈ items, IsConstraint item)
    (integral : IntegralEntry (.mapping m es)) :
    constraintsOf es = .ok cs ↔
      ∃ items, arrayItems? ((Value.lookup? (.text "constraints") es).getD (.list [])) = some items ∧
        List.Forall₂ WritesConstraint items cs := by
  obtain ⟨items, held, each⟩ := constraints_given constrained
  have single : ∀ item ∈ items, ∃ m keyword v, item = .mapping m [(keyword, v)] := by
    intro item mem
    cases (each item mem).1
    exact ⟨_, _, _, rfl⟩
  have writes : List.Forall₂ DeclaresAlone items cs ↔ List.Forall₂ WritesConstraint items cs :=
    forall₂_congr_mem fun item mem c => by
      obtain ⟨constraint, v, given, list⟩ := each item mem
      exact declaresAlone_iff_writes constraint (integral v items given list item mem)
  rw [constraintsOf_list held, constraintsOfItems_eq_ok_iff single, writes]
  constructor
  · intro h
    exact ⟨items, held, h⟩
  · rintro ⟨items', held', h⟩
    cases held.symm.trans held'
    exact h

theorem boolean_eq_ok_iff {b b' : Bool} (flag : v = .bool b') :
    Reading.boolean v = .ok b ↔ v = .bool b := by
  subst flag
  simp [Reading.boolean]

/-- Entries are converted exactly if what they write keeps the rules, if this is so for each. -/
theorem convertsTo_all_iff {fields : List Field}
    (each : ∀ entry ∈ items, ∀ g, ConvertsTo entry g ↔ WritesField entry g ∧ g.WellFormed) :
    List.Forall₂ ConvertsTo items fields ↔
      List.Forall₂ WritesField items fields ∧ ∀ g ∈ fields, g.WellFormed := by
  rw [← forall₂_and_right]
  exact forall₂_congr_mem each

/-- The parts of an entry that follows the format, apart from the fields inside it, are converted
into those that it writes. -/
theorem convertsTo_iff_writesParts
    (named : ∃ v s, Value.lookup? (.text "name") es = some v ∧ v.asText? = some s ∧ s ≠ "")
    (typed : ∃ v t, Value.lookup? (.text "type") es = some v ∧ WritesType v t)
    (flagged : ∀ v, Value.lookup? (.text "required") es = some v → ∃ b, v = .bool b)
    (constrained : ∀ v, Value.lookup? (.text "constraints") es = some v →
      ∃ items, arrayItems? v = some items ∧ ∀ item ∈ items, IsConstraint item)
    (integral : IntegralEntry (.mapping m es)) :
    ConvertsTo (.mapping m es) f ↔ WritesParts (.mapping m es) f ∧ f.name ≠ "" ∧
      (convertedInside es).result = .ok f.nested ∧ DistinctNames f.nested ∧
      (f.nested.isSome → f.type = .kind .map) := by
  obtain ⟨name, s, hn, text, some⟩ := named
  obtain ⟨w, t, hw, writes⟩ := typed
  have named : (∃ v, Value.lookup? (.text "name") es = .some v ∧
      Reading.nonEmptyText v = .ok f.name) ↔
        (∃ v, Value.lookup? (.text "name") es = .some v ∧ v.asText? = .some f.name) ∧
          f.name ≠ "" := by
    simp only [hn, Option.some.injEq, exists_eq_left', Reading.nonEmptyText_eq_ok_iff,
      Reading.text_of_asText text, text, Except.ok.injEq]
  have typed : (∃ v, Value.lookup? (.text "type") es = .some v ∧ typeOf v = .ok f.type) ↔
      ∃ v, Value.lookup? (.text "type") es = .some v ∧ WritesType v f.type := by
    simp only [hw, Option.some.injEq, exists_eq_left', typeOf_of_writes writes, Except.ok.injEq]
    constructor
    · rintro rfl
      exact writes
    · exact writesType_unique writes
  obtain ⟨b, hb⟩ := flag_given flagged
  -- each part is converted into what it writes; the rules of contracts stay as they are
  rw [convertsTo_mapping_iff, constraintsOf_eq_ok_iff_writes constrained integral, named, typed,
    boolean_eq_ok_iff hb]
  constructor
  · rintro ⟨constraints, ⟨name, some⟩, type, required, rest⟩
    exact ⟨⟨name, type, required, constraints⟩, some, rest⟩
  · rintro ⟨⟨name, type, required, constraints⟩, some, rest⟩
    exact ⟨constraints, ⟨name, some⟩, type, required, rest⟩

/-- An entry that follows the format is converted into a field exactly if it writes this field and
the field keeps the rules of contracts. -/
theorem convertsTo_iff_writes (v : Value) (field : IsField v) (own : IntegralEntry v)
    (within : ∀ w, v.under? "fields" = some w → IntegralWithin w) :
    ConvertsTo v f ↔ WritesField v f ∧ f.WellFormed := by
  induction v using fieldInduction generalizing f with
  | field v ih =>
  cases field with
  | @intro m es object named typed flagged constrained listed inside only =>
    rw [convertsTo_iff_writesParts named typed flagged constrained own, Field.wellFormed_iff]
    cases held : Value.lookup? (.text "fields") es with
    | none =>
      -- nothing is inside, neither converted nor written
      rw [convertedInside_result_of_absent held]
      constructor
      · rintro ⟨parts, some, none, distinct, fits⟩
        exact ⟨.plain parts held none, some, fits, by simp [none]⟩
      · rintro ⟨writes, some, fits, -⟩
        cases writes with
        | plain parts absent none => exact ⟨parts, some, none, by simp [DistinctNames, none], fits⟩
        | nesting parts held' => cases held.symm.trans held'
    | some w =>
      -- what is inside is converted into what it writes, by the induction
      obtain ⟨items, list⟩ := listed w held
      have each : ∀ entry ∈ items, ∀ g,
          ConvertsTo entry g ↔ WritesField entry g ∧ g.WellFormed := by
        intro entry mem g
        have integral : IntegralWithin w := within w held
        exact ih m es w items rfl held list entry mem (inside w items held list entry mem)
          (integral.entry list mem) fun w => integral.inside list mem
      obtain ⟨k, grows, rfl⟩ := arrayItems?_eq_some_iff.mp list
      rw [convertedInside_result_of_list held]
      simp only [convertsTo_all_iff each]
      constructor
      · rintro ⟨parts, some, ⟨fields, nested, writes, kept⟩, distinct, fits⟩
        refine ⟨.nesting parts held list nested writes, some, fits, ?_⟩
        intro fields' nested'
        cases nested.symm.trans nested'
        exact ⟨distinct fields nested, kept⟩
      · rintro ⟨writes, some, fits, kept⟩
        cases writes with
        | plain parts absent => cases held.symm.trans absent
        | @nesting _ _ _ items' fields parts held' list' nested writes =>
          cases held.symm.trans held'
          cases list.symm.trans list'
          obtain ⟨distinct, kept⟩ := kept fields nested
          refine ⟨parts, some, ⟨fields, nested, writes, kept⟩, ?_, fits⟩
          intro fields' nested'
          cases nested.symm.trans nested'
          exact distinct

/-! ### Contracts -/

/-- So are lists of entries converted into contracts. -/
theorem contractOf_eq_ok_iff_writes {name fields : Value} (listed : IsFieldList fields)
    (integral : IntegralWithin fields) {c : Contract} :
    (contractOf name fields).result = .ok c ↔ WritesContract (name, fields) c ∧ c.WellFormed := by
  obtain ⟨items, list, each⟩ := listed
  have converts : ∀ entry ∈ items, ∀ g,
      ConvertsTo entry g ↔ WritesField entry g ∧ g.WellFormed := by
    intro entry mem g
    exact convertsTo_iff_writes entry (each entry mem) (integral.entry list mem) fun w =>
      integral.inside list mem
  obtain ⟨k, grows, rfl⟩ := arrayItems?_eq_some_iff.mp list
  rw [contractOf_result_eq_ok_iff, convertsTo_all_iff converts, Reading.nonEmptyText_eq_ok_iff,
    Contract.WellFormed, allWellFormed_iff]
  constructor
  · rintro ⟨⟨named, some⟩, distinct, writes, kept⟩
    exact ⟨⟨named, items, list, writes⟩, some, distinct, kept⟩
  · rintro ⟨⟨named, items', list', writes⟩, some, distinct, kept⟩
    cases list.symm.trans list'
    exact ⟨⟨named, some⟩, distinct, writes, kept⟩

end Definition

end DataContract
