/-
Converting what follows the format.

An entry of a document that follows the format is a map with a name and a type that is spelled
right; its constraints are maps, and the entries inside it follow the format too. Its conversion can
still fail: a rule between its parts may be broken, and a pattern may be none. Then a part does not
fit its model, which is reported, or a pattern has a repetition that cannot be counted out
(`FailsAtPart`, `Refusable`). By induction on the entry this holds at every depth (`fieldOf_fails`),
and so for contracts (`contractOf_failsAtPart`, `contractOf_fails`).
-/
import DataContract.Proofs.Definition.Assembly
import DataContract.Proofs.Reading.Repetition

namespace DataContract

/-- A declaration fails where what is read does not fit its model, or at a repetition. -/
theorem DeclarationFault.ofReading_eq_error {α : Type} {title : String} {r : Reading α}
    {d : DeclarationFault} (h : ofReading title r = .error d) :
    (∃ m, d = .model m) ∨ d = .repetitionTooLarge ∧ r.Uncountable := by
  unfold ofReading at h
  split at h
  · cases h
  · cases h
    exact .inl ⟨_, rfl⟩
  · cases h
    exact .inr ⟨rfl, rfl⟩

namespace Constraint

variable {k : ConstraintKind} {keyword v : Value}

theorem declared_of_keyword (text : keyword.asText? = some k.keyword) :
    declared keyword v = ofKind k v := by
  have known : ConstraintKind.ofKeyword? (aliasOf k.keyword) = some k := by
    cases k <;> rfl
  simp only [declared, text, Option.bind_some, known]

/-- What may stand beside a keyword fails to be read where it does not fit the keyword's model, or
is a pattern with a repetition that cannot be counted out. -/
theorem ofKind_fails {d : DeclarationFault} (admitted : k.Admits v) (h : ofKind k v = .error d) :
    (∃ m, d = .model m) ∨
      d = .repetitionTooLarge ∧ k = .format ∧ (Reading.pattern v).Uncountable := by
  cases k with
  | oneOf =>
    obtain ⟨first, rest, list⟩ := admitted
    obtain ⟨s, -, rfl⟩ := Definition.arrayItems?_eq_some_iff.mp list
    cases h
  | format =>
    refine (DeclarationFault.ofReading_eq_error h).imp_right fun ⟨tooLarge, u⟩ => ?_
    rw [Reading.parameter, Reading.uncountable_map_iff, Reading.uncountable_needed_iff] at u
    exact ⟨tooLarge, rfl, u⟩
  | minLength | maxLength =>
    refine (DeclarationFault.ofReading_eq_error h).imp_right fun ⟨_, u⟩ => ?_
    rw [Reading.parameter, Reading.uncountable_map_iff, Reading.uncountable_needed_iff] at u
    exact absurd u Reading.not_uncountable_length
  | min | max =>
    refine (DeclarationFault.ofReading_eq_error h).imp_right fun ⟨_, u⟩ => ?_
    rw [Reading.parameter, Reading.uncountable_map_iff, Reading.uncountable_needed_iff] at u
    exact absurd u Reading.not_uncountable_bound

end Constraint

namespace Definition

variable {v p name fields : Value} {es : List (Value × Value)} {items : List Value}
  {f : ConversionFault}

/-! ### Types -/

/-- A member that is a kind reads as the name of the kind. -/
theorem ofValue?_of_name {k : FieldKind} {t : FieldType} (name : v.asText? = some k.name)
    (h : FieldType.ofValue? v = some t) : t = .kind k := by
  cases v with
  | atom a =>
    obtain ⟨k', member, rfl⟩ := Option.map_eq_some_iff.mp h
    obtain rfl : k'.toAtom = a := by simpa using List.find?_some member
    have same : k'.name = k.name := Option.some.inj name
    have found : FieldKind.ofName? k'.name = some k := FieldKind.ofName?_eq_some_iff.mpr same
    cases (FieldKind.ofName?_eq_some_iff.mpr rfl).symm.trans found
    rfl
  | text s => cases h
  | _ => cases name

theorem declared_of_name {k : FieldKind} (name : v.asText? = some k.name) :
    FieldType.declared v = .ok (.kind k) := by
  unfold FieldType.declared
  rw [name]
  cases ht : FieldType.ofValue? v with
  | none => simp only [FieldType.ofWord, FieldKind.ofName?_eq_some_iff.mpr rfl]
  | some t => simp only [ofValue?_of_name name ht]

/-- What writes a type is converted into it. -/
theorem typeOf_of_writes {t : FieldType} (w : WritesType v t) : typeOf v = .ok t := by
  induction w with
  | @kind v k name =>
    have declared : typeOf v = (FieldType.declared v).mapError ConversionFault.declaration := by
      cases v with
      | mapping => cases name
      | _ => simp only [typeOf]
    rw [declared, declared_of_name name]
    rfl
  | @listOf m key item t object list _ ih =>
    have items : itemTypeOf [(key, item)] = some (.ok (.listOf t)) := by
      rw [itemTypeOf, if_pos (Value.text_beq_iff.mpr list), ih]
      rfl
    cases m with
    | view => exact absurd rfl object
    | _ => simp only [typeOf, items, Option.getD_some]

/-- A value writes one type at most. -/
theorem writesType_unique {t t' : FieldType} (w : WritesType v t) (w' : WritesType v t') : t = t' :=
  Except.ok.inj ((typeOf_of_writes w).symm.trans (typeOf_of_writes w'))

/-! ### Entries -/

/-- A value stands under `format` in a constraint of an entry, or of an entry inside it. -/
inductive HasFormat (p : Value) : Value → Prop where
  | own {k : MappingKind} {es constraint : List (Value × Value)} {items : List Value} {key v : Value}
    (listed : Value.lookup? (.text "constraints") es = some v) (list : arrayItems? v = some items)
    (mem : ∃ item ∈ items, item.asEntries? = some constraint) (held : (key, p) ∈ constraint)
    (format : key.asText? = some "format") : HasFormat p (.mapping k es)
  | inside {k : MappingKind} {es : List (Value × Value)} {items : List Value} {entry v : Value}
    (listed : Value.lookup? (.text "fields") es = some v) (list : arrayItems? v = some items)
    (mem : entry ∈ items) (has : HasFormat p entry) : HasFormat p (.mapping k es)

/-- The same for one of the entries of a list. -/
def ListHasFormat (p fields : Value) : Prop :=
  ∃ items, arrayItems? fields = some items ∧ ∃ entry ∈ items, HasFormat p entry

/-- How the conversion of what follows the format may fail: so that it is reported, or at a
repetition that cannot be counted out, in a pattern that is written in it. -/
def Refusable (written : Value → Prop) (f : ConversionFault) : Prop :=
  isReported f = true ∨ f = .declaration .repetitionTooLarge ∧
    ∃ p, written p ∧ (Reading.pattern p).Uncountable

/-- The same, but so that what is reported is a part that does not fit its model. -/
def FailsAtPart (written : Value → Prop) (f : ConversionFault) : Prop :=
  (∃ m, f = .declaration (.model m)) ∨ f = .declaration .repetitionTooLarge ∧
    ∃ p, written p ∧ (Reading.pattern p).Uncountable

theorem FailsAtPart.mono {written written' : Value → Prop} (h : FailsAtPart written f)
    (more : ∀ p, written p → written' p) : FailsAtPart written' f :=
  h.imp_right fun ⟨at', p, hp, u⟩ => ⟨at', p, more p hp, u⟩

theorem FailsAtPart.refusable {written : Value → Prop} (h : FailsAtPart written f) :
    Refusable written f := by
  refine h.imp_left ?_
  rintro ⟨m, rfl⟩
  rfl

theorem constraintsOfItem_fails (constraint : IsConstraint v) (h : constraintsOfItem v = .error f) :
    FailsAtPart (fun p => ∃ es key, v.asEntries? = some es ∧ (key, p) ∈ es ∧
      key.asText? = some "format") f := by
  cases constraint with
  | @intro m key w k object keyword admitted =>
    obtain ⟨d, declared, rfl⟩ := mapError_eq_error_iff.mp h
    simp only [Constraint.declaredAll, bind_eq_error_iff, pure_ne_error, and_false, exists_false,
      or_false, reduceCtorEq, Constraint.declared_of_keyword keyword] at declared
    obtain ⟨m, rfl⟩ | ⟨rfl, rfl, u⟩ := Constraint.ofKind_fails admitted declared
    · exact .inl ⟨m, rfl⟩
    · exact .inr ⟨rfl, w, ⟨_, key, rfl, List.mem_singleton_self _, keyword⟩, u⟩

theorem constraintsOfItems_fails (h : constraintsOfItems items = .error f) :
    ∃ item ∈ items, constraintsOfItem item = .error f := by
  induction items with
  | nil => cases h
  | cons item rest ih =>
    simp only [constraintsOfItems, bind_eq_error_iff, pure_ne_error, and_false, exists_false,
      or_false] at h
    obtain first | ⟨_, -, others⟩ := h
    · exact ⟨item, List.mem_cons_self, first⟩
    · obtain ⟨x, mem, found⟩ := ih others
      exact ⟨x, List.mem_cons_of_mem _ mem, found⟩

theorem constraintsOf_fails {m : MappingKind}
    (constrained : ∀ v, Value.lookup? (.text "constraints") es = some v →
      ∃ items, arrayItems? v = some items ∧ ∀ item ∈ items, IsConstraint item)
    (h : constraintsOf es = .error f) : FailsAtPart (fun p => HasFormat p (.mapping m es)) f := by
  unfold constraintsOf at h
  split at h
  · cases h
  · next v listed =>
    obtain ⟨items, list, constraints⟩ := constrained v listed
    obtain ⟨k, -, rfl⟩ := arrayItems?_eq_some_iff.mp list
    obtain ⟨item, mem, h⟩ := constraintsOfItems_fails h
    refine (constraintsOfItem_fails (constraints item mem) h).mono ?_
    rintro p ⟨constraint, key, entries, held, format⟩
    exact .own listed list ⟨item, mem, entries⟩ held format

/-- Reading the parts of a field does not read a pattern. -/
theorem not_uncountable_readParts {name required : Value} {t : FieldType} {cs : List Constraint}
    {nested : Option (List Field)} : ¬(readParts name t required cs nested).Uncountable := by
  have parts : ¬(Reading.both (Reading.under (.name "name") (Reading.nonEmptyText name))
      (Reading.both (Reading.under (.name "required") (Reading.boolean required))
        (Reading.given nested))).Uncountable := by
    rw [Reading.uncountable_both_iff, Reading.uncountable_both_iff, Reading.uncountable_under_iff,
      Reading.uncountable_under_iff]
    rintro (u | u | u)
    · exact Reading.not_uncountable_nonEmptyText u
    · exact Reading.not_uncountable_boolean u
    · cases nested with
      | none => exact Reading.not_uncountable_ok u
      | some fields =>
        rw [Reading.given, Reading.uncountable_under_iff, Reading.nestedOf,
          Reading.uncountable_map_iff] at u
        exact Reading.not_uncountable_distinct u
  intro u
  obtain u | ⟨_, -, u⟩ := bind_eq_error_iff.mp u
  · exact parts u
  · exact Reading.not_uncountable_ensure u

/-- Putting together an entry that has a name and writes a type fails where a part does not fit its
model, or where the entries inside it could not be converted. -/
theorem assembleField_fails {constraints : List Constraint}
    {nested : Noted ConversionFault (Option (List Field))}
    (named : ∃ v, Value.lookup? (.text "name") es = some v)
    (typed : ∃ v t, Value.lookup? (.text "type") es = some v ∧ WritesType v t)
    (h : (assembleField es constraints nested).result = .error f) :
    nested.result = .error f ∨ ∃ m, f = .declaration (.model m) := by
  obtain ⟨name, hn⟩ := named
  obtain ⟨written, t, hw, writes⟩ := typed
  have name_ok : atKey "name" es = .ok name := atKey_eq_ok_iff.mpr hn
  have type_ok : atKey "type" es = .ok written := atKey_eq_ok_iff.mpr hw
  simp only [assembleField_eq, Noted.result_bind, Noted.of, name_ok, type_ok, bind_eq_error_iff,
    Except.ok.injEq, exists_eq_left', reduceCtorEq, false_or, typeOf_of_writes writes] at h
  obtain inside | ⟨inner, -, declaring | ⟨_, -, noting | ⟨_, -, returning⟩⟩⟩ := h
  · exact .inl inside
  · right
    obtain ⟨d, hd, rfl⟩ := mapError_eq_error_iff.mp declaring
    obtain ⟨m, rfl⟩ | ⟨-, u⟩ := DeclarationFault.ofReading_eq_error hd
    · exact ⟨m, rfl⟩
    · exact absurd u not_uncountable_readParts
  · cases noting
  · cases returning

theorem fieldsOf_fails (h : (fieldsOf items).result = .error f) :
    ∃ entry ∈ items, (fieldOf entry).result = .error f := by
  induction items with
  | nil => cases h
  | cons v rest ih =>
    simp only [fieldsOf, Noted.result_bind, bind_eq_error_iff] at h
    obtain first | ⟨_, -, others | ⟨_, -, ⟨⟩⟩⟩ := h
    · exact ⟨v, List.mem_cons_self, first⟩
    · obtain ⟨entry, mem, found⟩ := ih others
      exact ⟨entry, List.mem_cons_of_mem _ mem, found⟩

theorem nestedOf_list_fails (list : arrayItems? v = some items)
    (h : (nestedOf v).result = .error f) : ∃ entry ∈ items, (fieldOf entry).result = .error f := by
  obtain ⟨k, -, rfl⟩ := arrayItems?_eq_some_iff.mp list
  simp only [nestedOf, Noted.result_bind, bind_eq_error_iff] at h
  obtain h | ⟨_, -, ⟨⟩⟩ := h
  exact fieldsOf_fails h

/-- The conversion of an entry that follows the format fails only where a part of it does not fit
its model, or at a pattern in it that cannot be counted out. -/
theorem fieldOf_fails (v : Value) (field : IsField v) (h : (fieldOf v).result = .error f) :
    FailsAtPart (HasFormat · v) f := by
  induction v using fieldInduction with
  | field v ih =>
  cases field with
  | @intro m es object named typed flagged constrained listed inside only =>
    obtain ⟨name, s, hn, -⟩ := named
    -- the constraints are converted first, then the entries inside, then the entry itself
    rw [fieldOf, Noted.result_bind, bind_eq_error_iff] at h
    obtain constraints | ⟨_, -, rest⟩ := h
    · exact constraintsOf_fails constrained constraints
    · obtain nested | ⟨m, rfl⟩ := assembleField_fails ⟨name, hn⟩ typed rest
      · rw [nestedUnder_eq] at nested
        cases held : Value.lookup? (.text "fields") es with
        | none =>
          rw [held] at nested
          cases nested
        | some w =>
          obtain ⟨items, list⟩ := listed w held
          rw [held, Option.map_some, Option.getD_some] at nested
          obtain ⟨entry, mem, h⟩ := nestedOf_list_fails list nested
          have field := inside w items held list entry mem
          refine (ih m es w items rfl held list entry mem field h).mono ?_
          intro p has
          exact .inside held list mem has
      · exact .inl ⟨m, rfl⟩

theorem declared_ne_tooLarge {fs : List Field} :
    Contract.declared name fs ≠ .error .repetitionTooLarge := by
  intro h
  have u := DeclarationFault.ofReading_eq_tooLarge_iff.mp h
  rw [Reading.uncountable_map_iff, Reading.uncountable_both_iff, Reading.uncountable_under_iff,
    Reading.uncountable_under_iff] at u
  exact u.elim Reading.not_uncountable_nonEmptyText Reading.not_uncountable_distinct

/-- The same for a contract whose entries follow the format, under any name. -/
theorem contractOf_failsAtPart (listed : IsFieldList fields)
    (h : (contractOf name fields).result = .error f) : FailsAtPart (ListHasFormat · fields) f := by
  obtain ⟨items, list, each⟩ := listed
  rw [contractOf, Noted.result_bind, bind_eq_error_iff] at h
  · obtain entries | ⟨_, -, declaring⟩ := h
    · obtain ⟨entry, mem, h⟩ := nestedOf_list_fails list entries
      refine (fieldOf_fails entry (each entry mem) h).mono ?_
      intro p has
      exact ⟨items, list, entry, mem, has⟩
    · obtain ⟨d, hd, rfl⟩ := mapError_eq_error_iff.mp declaring
      obtain ⟨m, rfl⟩ | ⟨rfl, -⟩ := DeclarationFault.ofReading_eq_error hd
      · exact .inl ⟨m, rfl⟩
      · exact absurd hd declared_ne_tooLarge
  · -- no list of entries is null
    rintro rfl
    cases list

theorem contractOf_fails (sound : fieldListFaults fields = [])
    (h : (contractOf name fields).result = .error f) : Refusable (ListHasFormat · fields) f :=
  (contractOf_failsAtPart (fieldListFaults_eq_nil_iff.mp sound) h).refusable

end Definition

end DataContract
