/-
The contracts that can be built, and the rules that they keep.

A field is declared, converted from an entry of a definition, or read from a value; so is a contract,
which may also be loaded with a document. Each way takes what others have built: fields are declared
with fields inside them, and a value may hold built fields at any place (`Value.StandsIn`). Whatever
is built so (`Field.Made`, `Contract.Made`) is well-formed at every depth
(`Field.Made.wellFormed`, `Contract.Made.wellFormed`).
-/
import DataContract.Proofs.Definition.Growth
import DataContract.Proofs.Reading.Field

namespace DataContract

/-! ### Ways of building -/

/-- A value is another, or stands in it: as an item, as a member, or under a key. -/
inductive Value.StandsIn (w : Value) : Value → Prop where
  | self : StandsIn w w
  | item {k : SequenceKind} {items : List Value} {v : Value} (mem : v ∈ items)
    (within : StandsIn w v) : StandsIn w (.sequence k items)
  | member {items : List Value} {v : Value} (mem : v ∈ items) (within : StandsIn w v) :
    StandsIn w (.set items)
  | entry {m : MappingKind} {es : List (Value × Value)} {e : Value × Value} (mem : e ∈ es)
    (within : StandsIn w e.2) : StandsIn w (.mapping m es)

/-- A field is built: declared with fields that are, converted from an entry, or read from a value
in which the fields that stand there are built. -/
inductive Field.Made : Field → Prop where
  | declared {name type : Value} {required : Bool} {fields : Option (List Field)}
    {constraints : List (Value × Value)} {f : Field}
    (inside : ∀ fs, fields = some fs → ∀ g ∈ fs, Made g)
    (h : (Field.declared name type required fields constraints).result = .ok f) : Made f
  | converted {entry : Value} {f : Field} (h : Definition.ConvertsTo entry f) : Made f
  | read {v : Value} {f : Field}
    (built : ∀ w g, w.StandsIn v → Field.ofValue? w = some g → Made g)
    (h : Reading.ReadsAs v f) : Made f

/-- A contract is built: declared with fields that are, converted from entries under a name, left in
a registry of such contracts by loading a document, successfully or not, or read from a value in
which the fields that stand there are built, and which, if it is a contract, is built. -/
inductive Contract.Made : Contract → Prop where
  | declared {name : Value} {fields : List Field} {c : Contract} (inside : ∀ f ∈ fields, f.Made)
    (h : Contract.declared name fields = .ok c) : Made c
  | converted {name fields : Value} {c : Contract}
    (h : (Definition.contractOf name fields).result = .ok c) : Made c
  | loaded {document : Value} {source : String} {r : Registry} {c : Contract}
    (old : ∀ d ∈ r.contracts, Made d)
    (h : c ∈ (Definition.load document source r).1.contracts) : Made c
  | read {v : Value} {c : Contract}
    (inside : ∀ w g, w.StandsIn v → Field.ofValue? w = some g → g.Made)
    (built : ∀ d, Contract.ofValue? v = some d → Made d)
    (h : Reading.contract v = .ok c) : Made c

/-! ### Converting -/

namespace Definition

variable {f : Field} {c : Contract}

/-- A field that an entry is converted into is well-formed: so are the fields inside it, which are
converted too. -/
theorem wellFormed_of_convertsTo {entry : Value} (h : ConvertsTo entry f) : f.WellFormed := by
  refine Field.wellFormed_of_closed (P := fun f => ∃ entry, ConvertsTo entry f) ?_ f ⟨entry, h⟩
  rintro f ⟨entry, h⟩
  obtain ⟨m, es, rfl⟩ := exists_mapping_of_convertsTo h
  obtain ⟨-, ⟨v, -, named⟩, -, -, inside, distinct, map⟩ := convertsTo_mapping_iff.mp h
  refine ⟨(Reading.nonEmptyText_eq_ok_iff.mp named).2, map, fun fields held => ?_⟩
  refine ⟨distinct fields held, fun g mem => .inr ?_⟩
  rw [held, convertedInside_result_eq_ok_iff] at inside
  obtain ⟨-, ⟨⟩⟩ | ⟨w, -, nested⟩ := inside
  obtain ⟨-, ⟨⟩⟩ | ⟨-, items, _, -, ⟨⟩, converted⟩ := nestedOf_result_eq_ok_iff.mp nested
  obtain ⟨entry, -, converted⟩ := exists_of_forall₂_right converted g mem
  exact ⟨entry, converted⟩

theorem contract_wellFormed_of_contractOf {name fields : Value}
    (h : (contractOf name fields).result = .ok c) : c.WellFormed := by
  obtain ⟨named, distinct, items, -, converted⟩ := contractOf_goneThrough_eq_ok_iff.mp h
  refine ⟨(Reading.nonEmptyText_eq_ok_iff.mp named).2, distinct, allWellFormed_iff.mpr ?_⟩
  intro f mem
  obtain ⟨entry, -, converted⟩ := exists_of_forall₂_right converted f mem
  exact wellFormed_of_convertsTo converted

/-- Each contract in a registry into which a document is loaded was there, or is converted from
entries of the document. -/
theorem mem_load_contracts {document : Value} {source : String} {r : Registry}
    (h : c ∈ (load document source r).1.contracts) :
    c ∈ r.contracts ∨ ∃ e ∈ contractEntries document, ConvertsToContract e c := by
  obtain ⟨cs, result, loads⟩ := exists_loads document source r
  have left : (load document source r).1.contracts = r.contracts ++ cs := by
    rw [(load_of_loads loads).1, Registry.contracts, Registry.followedBy, List.map_append,
      List.map_map]
    exact congrArg _ (List.map_id' cs)
  rw [left, List.mem_append] at h
  refine h.imp_right fun mem => ?_
  cases loads with
  | malformed => cases mem
  | unwritable => cases mem
  | accepted sound contracts =>
    -- what stops the loading leaves the contracts of the entries before it
    generalize contractEntries document = es at contracts
    cases contracts with
    | loaded all =>
      exact exists_of_forall₂_right all.converted c mem
    | stopped first refused =>
      obtain ⟨e, before, converted⟩ := exists_of_forall₂_right first.converted c mem
      exact ⟨e, List.mem_append_left _ before, converted⟩

end Definition

/-! ### Reading -/

namespace Reading

variable {v w x : Value} {f : Field} {xs : List Value}

/-- What stands in an item that is read as a field stands in the value whose item it is. -/
theorem standsIn_of_items (held : items v = .ok xs) (mem : x ∈ xs) (reads : ReadsAs x f)
    (h : w.StandsIn x) : w.StandsIn v := by
  cases v with
  | sequence k items =>
    cases held
    exact .item mem h
  | set items =>
    cases held
    exact .member mem h
  | record model parts =>
    -- the parts of a record are pairs, which are not read as fields
    cases held
    obtain ⟨p, -, rfl⟩ := List.mem_map.mp mem
    cases reads
  | _ => cases held

theorem standsIn_of_lookup? {m : MappingKind} {es : List (Value × Value)} {key : String}
    (held : Value.lookup? (.text key) es = some v) (h : w.StandsIn v) :
    w.StandsIn (.mapping m es) := by
  obtain ⟨k, mem, -⟩ := Value.exists_mem_of_lookup? held
  exact .entry mem h

/-- The fields that stand in a value are well-formed. -/
def HoldsWellFormed (v : Value) : Prop :=
  ∀ w g, w.StandsIn v → Field.ofValue? w = some g → g.WellFormed

theorem HoldsWellFormed.item {m : MappingKind} {es : List (Value × Value)} {key : String}
    (sound : HoldsWellFormed (.mapping m es)) (held : Value.lookup? (.text key) es = some v)
    (given : items v = .ok xs) (mem : x ∈ xs) (reads : ReadsAs x f) : HoldsWellFormed x :=
  fun w g h => sound w g (standsIn_of_lookup? held (standsIn_of_items given mem reads h))

/-- A field read from a value is well-formed if those that stand there are: the fields inside it
stand there, or are read from what does. -/
theorem wellFormed_of_readsAs (sound : HoldsWellFormed v) (h : ReadsAs v f) : f.WellFormed := by
  refine Field.wellFormed_of_closed (P := fun f => ∃ v, HoldsWellFormed v ∧ ReadsAs v f)
    ?_ f ⟨v, sound, h⟩
  rintro f ⟨v, sound, h⟩
  cases maps : v.asEntries? with
  | none =>
    -- a field that was built before: those inside it are its own
    have kept : f.WellFormed := sound v f .self ((field_of_no_mapping maps).mp h)
    obtain ⟨named, map, nested⟩ := Field.wellFormed_iff.mp kept
    exact ⟨named, map, fun fields held =>
      ⟨(nested fields held).1, fun g mem => .inl ((nested fields held).2 g mem)⟩⟩
  | some es =>
    obtain ⟨m, rfl⟩ := Value.exists_mapping_of_asEntries? maps
    obtain ⟨⟨n, -, named⟩, -, -, -, inside, map⟩ := field_mapping_eq_ok_iff.mp h
    refine ⟨(nonEmptyText_eq_ok_iff.mp named).2, map, fun fields nested => ?_⟩
    rw [nested] at inside
    obtain ⟨-, ⟨⟩⟩ | ⟨u, held, given⟩ := inside
    obtain ⟨-, ⟨⟩⟩ | ⟨-, xs, _, given, ⟨⟩, each, distinct⟩ := nestedFields_eq_ok_iff.mp given
    refine ⟨distinct, fun g mem => .inr ?_⟩
    obtain ⟨x, there, reads⟩ := exists_of_forall₂_right each g mem
    exact ⟨x, sound.item held given there reads, reads⟩

/-- What is read as a contract is one, or a map. -/
theorem contract_eq_ok_cases {c : Contract} (h : contract v = .ok c) :
    Contract.ofValue? v = some c ∨ ∃ m es, v = .mapping m es := by
  unfold contract at h
  split at h
  · next d same =>
    cases h
    exact .inl same
  · refine .inr ?_
    cases maps : v.asEntries? with
    | none =>
      rw [entries, maps] at h
      cases h
    | some es =>
      obtain ⟨m, same⟩ := Value.exists_mapping_of_asEntries? maps
      exact ⟨m, es, same⟩

theorem contract_wellFormed_of_mapping {m : MappingKind} {es : List (Value × Value)} {c : Contract}
    (sound : HoldsWellFormed (.mapping m es)) (h : contract (.mapping m es) = .ok c) :
    c.WellFormed := by
  obtain ⟨⟨n, -, named⟩, fields, distinct⟩ := contract_mapping_eq_ok_iff.mp h
  refine ⟨(nonEmptyText_eq_ok_iff.mp named).2, distinct, allWellFormed_iff.mpr fun f mem => ?_⟩
  obtain ⟨-, none⟩ | ⟨u, xs, held, given, each⟩ := fields
  · rw [none] at mem
    cases mem
  · obtain ⟨x, there, reads⟩ := exists_of_forall₂_right each f mem
    exact wellFormed_of_readsAs (sound.item held given there reads) reads

end Reading

/-! ### Everything that is built -/

/-- A field that is built is well-formed. -/
theorem Field.Made.wellFormed {f : Field} (made : f.Made) : f.WellFormed := by
  induction made with
  | declared inside h ih =>
    obtain ⟨notes, h⟩ := Noted.result_eq_ok_iff.mp h
    obtain ⟨-, map, -, named, -, rfl, distinct, -⟩ := Field.declared_eq_ok_iff.mp h
    exact wellFormed_iff.mpr ⟨(Reading.nonEmptyText_eq_ok_iff.mp named).2, map,
      fun fields held => ⟨distinct fields held, ih fields held⟩⟩
  | converted h => exact Definition.wellFormed_of_convertsTo h
  | read built h ih => exact Reading.wellFormed_of_readsAs ih h

/-- A contract that is built is well-formed. -/
theorem Contract.Made.wellFormed {c : Contract} (made : c.Made) : c.WellFormed := by
  induction made with
  | declared inside h =>
    obtain ⟨named, rfl, distinct⟩ := Contract.declared_eq_ok_iff.mp h
    exact ⟨(Reading.nonEmptyText_eq_ok_iff.mp named).2, distinct,
      allWellFormed_iff.mpr fun f mem => (inside f mem).wellFormed⟩
  | converted h => exact Definition.contract_wellFormed_of_contractOf h
  | loaded old h ih =>
    obtain there | ⟨e, -, converted⟩ := Definition.mem_load_contracts h
    · exact ih _ there
    · exact Definition.contract_wellFormed_of_contractOf converted
  | @read v c inside built h ih =>
    obtain same | ⟨m, es, rfl⟩ := Reading.contract_eq_ok_cases h
    · exact ih c same
    · have sound : Reading.HoldsWellFormed (.mapping m es) := fun w g within held =>
        (inside w g within held).wellFormed
      exact Reading.contract_wellFormed_of_mapping sound h

end DataContract
