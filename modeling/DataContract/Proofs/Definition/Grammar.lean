/-
The grammar of definition documents.

`IsDocument`, `IsField`, `IsConstraint` and `WritesType` say of each part of a document how it is
written. A part has no faults exactly if it is written so: `spellsType_iff` for types,
`parameterFaults_eq_nil_iff` and `constraintFaults_eq_nil_iff` for constraints, and by induction on
fields within fields (`fieldInduction`) `fieldFaults_eq_nil_iff` for fields and `faults_eq_nil_iff`
for documents.
-/
import DataContract.Definition.Document
import DataContract.Proofs.Number.Exact
import DataContract.Proofs.Value.Keys

namespace DataContract

/-! ### Whole numbers -/

namespace Double

theorem signed_nonneg_iff {negative : Bool} {n : Nat} :
    0 ≤ signed negative n ↔ negative = false ∨ n = 0 := by
  cases negative with
  | false =>
    simp only [signed, Bool.false_eq_true, if_false, true_or, iff_true]
    exact Int.natCast_nonneg n
  | true =>
    simp only [signed, if_true, reduceCtorEq, false_or]
    omega

end Double

namespace Number

/-- The integer that a number is, if it is a whole one. -/
def whole? : Number → Option Int
  | .int n => some n
  | .double x => x.toInt?

variable {x : Number} {n : Int}

/-- A whole number is not below zero exactly if its integer is not. -/
theorem zero_le_iff (h : x.whole? = some n) :
    x.point?.isSome = true ∧ ((Number.int 0).le x = true ↔ 0 ≤ n) := by
  have unit : (0 : Int) < Double.unitsPerOne := Int.natCast_pos.mpr Double.unitsPerOne_pos
  cases x with
  | int m =>
    cases h
    refine ⟨rfl, ?_⟩
    simp only [le, point?, LinePoint.le, Int.zero_mul, decide_eq_true_eq]
    exact Int.mul_nonneg_iff_of_pos_right unit
  | double d =>
    cases d with
    | nan => cases h
    | infinite negative => cases h
    | finite negative mantissa shift =>
      simp only [whole?, Double.toInt?] at h
      generalize hu : mantissa <<< shift = units at h
      split at h
      · next divides =>
        cases h
        refine ⟨rfl, ?_⟩
        -- the number of units is zero exactly if the integer is
        have zero : units = 0 ↔ units / Double.unitsPerOne = 0 := by
          constructor
          · rintro rfl
            exact Nat.zero_div _
          · intro none
            have := Nat.div_add_mod units Double.unitsPerOne
            rw [none, divides, Nat.mul_zero, Nat.add_zero] at this
            exact this.symm
        simp only [le, point?, Double.point?, LinePoint.le, Int.zero_mul, decide_eq_true_eq, hu,
          Double.signed_nonneg_iff, zero]
      · cases h

end Number

/-! ### Names of kinds -/

theorem FieldKind.ofName?_eq_some_iff {s : String} {k : FieldKind} :
    ofName? s = some k ↔ s = k.name := by
  constructor
  · intro h
    have name : k.name = s := by simpa using List.find?_some h
    exact name.symm
  · rintro rfl
    cases k <;> rfl

namespace ConstraintKind

theorem ofKeyword?_eq_some_iff {s : String} {k : ConstraintKind} :
    ofKeyword? s = some k ↔ s = k.keyword := by
  constructor
  · intro h
    have keyword : k.keyword = s := by simpa using List.find?_some h
    exact keyword.symm
  · rintro rfl
    cases k <;> rfl

theorem keyword_inj {k k' : ConstraintKind} (h : k.keyword = k'.keyword) : k = k' := by
  have same : ofKeyword? k.keyword = some k' := ofKeyword?_eq_some_iff.mpr h
  exact Option.some.inj ((ofKeyword?_eq_some_iff.mpr rfl).symm.trans same)

theorem mem_all (k : ConstraintKind) : k ∈ all := by
  cases k <;> decide

end ConstraintKind

/-! ### Maps and lists in a document -/

theorem Definition.objectEntries?_eq_some_iff {v : Value} {es : List (Value × Value)} :
    objectEntries? v = some es ↔ ∃ m, m ≠ .view ∧ v = .mapping m es := by
  cases v with
  | mapping m entries => simp [objectEntries?]
  | _ => simp [objectEntries?]

theorem Definition.arrayItems?_eq_some_iff {v : Value} {items : List Value} :
    arrayItems? v = some items ↔ ∃ k, k.grows = true ∧ v = .sequence k items := by
  cases v with
  | sequence k parts => simp [arrayItems?]
  | _ => simp [arrayItems?]

/-! ### The grammar -/

open Definition (arrayItems? arrayItems?_eq_some_iff)

/-- Only these texts are keys of a map. -/
def OnlyKeys (known : List String) (es : List (Value × Value)) : Prop :=
  ∀ e ∈ es, ∃ key ∈ known, e.1.asText? = some key

/-- A value writes a type: it is the name of a kind, or a map with the type of a list's items under
its one key `list`. -/
inductive WritesType : Value → FieldType → Prop where
  | kind {v : Value} {k : FieldKind} (name : v.asText? = some k.name) : WritesType v (.kind k)
  | listOf {m : MappingKind} {key item : Value} {t : FieldType} (object : m ≠ .view)
    (list : key.asText? = some "list") (items : WritesType item t) :
    WritesType (.mapping m [(key, item)]) (.listOf t)

/-- What may stand beside the keyword of a constraint: a text for a format, a whole number that is
not negative for a length, a number for a bound, and a list that is not empty for a choice. -/
def ConstraintKind.Admits (k : ConstraintKind) (v : Value) : Prop :=
  match k with
  | .format => ∃ s, v.asText? = some s
  | .minLength | .maxLength => ∃ x n, v.asNumber? = some x ∧ x.whole? = some n ∧ 0 ≤ n
  | .min | .max => ∃ x, v.asNumber? = some x
  | .oneOf => ∃ first rest, arrayItems? v = some (first :: rest)

/-- A value is a constraint: a map from one keyword to what may stand beside it. -/
inductive IsConstraint : Value → Prop where
  | intro {m : MappingKind} {key v : Value} (k : ConstraintKind) (object : m ≠ .view)
    (keyword : key.asText? = some k.keyword) (admitted : k.Admits v) :
    IsConstraint (.mapping m [(key, v)])

/-- A value is a field: a map with a name and a type, perhaps with a flag, constraints and fields of
its own, and with nothing else. -/
inductive IsField : Value → Prop where
  | intro {m : MappingKind} {es : List (Value × Value)} (object : m ≠ .view)
    (named : ∃ v s, Value.lookup? (.text "name") es = some v ∧ v.asText? = some s ∧ s ≠ "")
    (typed : ∃ v t, Value.lookup? (.text "type") es = some v ∧ WritesType v t)
    (flagged : ∀ v, Value.lookup? (.text "required") es = some v → ∃ b, v = .bool b)
    (constrained : ∀ v, Value.lookup? (.text "constraints") es = some v →
      ∃ items, arrayItems? v = some items ∧ ∀ item ∈ items, IsConstraint item)
    (listed : ∀ v, Value.lookup? (.text "fields") es = some v → ∃ items, arrayItems? v = some items)
    (inside : ∀ v items, Value.lookup? (.text "fields") es = some v → arrayItems? v = some items →
      ∀ entry ∈ items, IsField entry)
    (only : OnlyKeys ["name", "type", "required", "constraints", "fields"] es) :
    IsField (.mapping m es)

/-- A value is a list of fields. -/
def IsFieldList (v : Value) : Prop :=
  ∃ items, arrayItems? v = some items ∧ ∀ entry ∈ items, IsField entry

/-- A value is a document: a map with the one key `contracts`, under which stands a map from names
to lists of fields. -/
inductive IsDocument : Value → Prop where
  | intro {m m' : MappingKind} {es contracts : List (Value × Value)} (object : m ≠ .view)
    (held : Value.lookup? (.text "contracts") es = some (.mapping m' contracts))
    (object' : m' ≠ .view) (fields : ∀ e ∈ contracts, IsFieldList e.2)
    (only : OnlyKeys ["contracts"] es) : IsDocument (.mapping m es)

/-- Induction over fields, the fields inside a field before it. -/
theorem fieldInduction {P : Value → Prop}
    (field : ∀ v, (∀ m es w items, v = .mapping m es → Value.lookup? (.text "fields") es = some w →
      arrayItems? w = some items → ∀ entry ∈ items, P entry) → P v)
    (v : Value) : P v := by
  refine field v ?_
  intro m es w items same held array entry mem
  have smaller : sizeOf entry < sizeOf v := by
    obtain ⟨k, -, rfl⟩ := arrayItems?_eq_some_iff.mp array
    rw [same]
    exact Value.sizeOf_lt_of_mem_lookup? held mem
  exact fieldInduction field entry
termination_by sizeOf v

namespace Definition

variable {v document : Value} {es : List (Value × Value)} {items : List Value}

/-! ### Values without faults -/

theorem expect_eq_nil_iff {holds : Bool} {rule : FormatRule} :
    expect holds rule = [] ↔ holds = true := by
  cases holds with
  | true => exact ⟨fun _ => rfl, fun _ => rfl⟩
  | false => exact ⟨nofun, nofun⟩

theorem missingKeys_eq_nil_iff {keys : List String} :
    missingKeys keys es = [] ↔ ∀ key ∈ keys, ∃ v, Value.lookup? (.text key) es = some v := by
  rw [missingKeys, List.flatMap_eq_nil_iff]
  simp only [expect_eq_nil_iff, Option.isSome_iff_exists]

theorem atKeyFaults_eq_nil_iff {key : String} {faults : Value → List FormatFault} :
    atKeyFaults key es faults = [] ↔
      ∀ v, Value.lookup? (.text key) es = some v → faults v = [] := by
  unfold atKeyFaults
  split
  · next v hv => simp [hv]
  · next hv => simp [hv]

theorem strayKeys_eq_nil_iff {known : List String} :
    strayKeys known es = [] ↔ OnlyKeys known es := by
  rw [strayKeys, expect_eq_nil_iff, List.isEmpty_iff, List.filter_eq_nil_iff, OnlyKeys,
    List.forall_mem_map]
  simp only [Bool.not_eq_true', Bool.not_eq_false, List.any_eq_true, Value.text_beq_iff]

theorem eachFaults_eq_nil_iff {faults : Value → List FormatFault} :
    eachFaults faults items = [] ↔ ∀ v ∈ items, faults v = [] := by
  simp only [eachFaults, List.flatMap_eq_nil_iff, Prod.forall, List.map_eq_nil_iff,
    List.mk_mem_zipIdx_iff_getElem?]
  constructor
  · intro h v mem
    obtain ⟨i, hi⟩ := List.getElem?_of_mem mem
    exact h v i hi
  · intro h v i hi
    exact h v (List.mem_of_getElem? hi)

/-! ### Types -/

mutual

/-- What spells a type writes one. -/
theorem spellsType_iff (v : Value) : spellsType v = true ↔ ∃ t, WritesType v t := by
  cases v with
  | mapping m es =>
    rw [spellsType, Bool.and_eq_true, Bool.and_eq_true, beq_iff_eq, itemsSpellType_iff es,
      MappingKind.isOwn_iff]
    constructor
    · rintro ⟨⟨object, single⟩, item, t, held, w⟩
      obtain ⟨⟨key, item'⟩, rfl⟩ := List.length_eq_one_iff.mp single
      obtain ⟨k, mem, list⟩ := Value.exists_mem_of_lookup? held
      obtain ⟨rfl, rfl⟩ := Prod.mk.inj (List.mem_singleton.mp mem)
      exact ⟨.listOf t, .listOf object list w⟩
    · rintro ⟨t, w⟩
      cases w with
      | kind name => cases name
      | listOf object list items => exact ⟨⟨object, rfl⟩, _, _, Value.lookup?_singleton list, items⟩
  | _ =>
    simp only [spellsType, Option.isSome_iff_exists, Option.bind_eq_some_iff,
      FieldKind.ofName?_eq_some_iff]
    constructor
    · rintro ⟨k, s, text, rfl⟩
      exact ⟨.kind k, .kind text⟩
    · rintro ⟨t, w⟩
      cases w with
      | kind name => exact ⟨_, _, name, rfl⟩

theorem itemsSpellType_iff (es : List (Value × Value)) : itemsSpellType es = true ↔
    ∃ item t, Value.lookup? (.text "list") es = some item ∧ WritesType item t := by
  cases es with
  | nil => exact ⟨nofun, fun ⟨_, _, h, _⟩ => by cases h⟩
  | cons e rest =>
    obtain ⟨k, v⟩ := e
    rw [itemsSpellType, Value.lookup?_cons]
    split
    · rw [spellsType_iff v]
      constructor
      · rintro ⟨t, w⟩
        exact ⟨v, t, rfl, w⟩
      · rintro ⟨_, t, ⟨⟩, w⟩
        exact ⟨t, w⟩
    · exact itemsSpellType_iff rest

end

theorem typeFaults_eq_nil_iff : typeFaults v = [] ↔ ∃ t, WritesType v t := by
  rw [typeFaults, expect_eq_nil_iff, spellsType_iff]

/-! ### Constraints -/

theorem lengthFaults_eq_nil_iff : lengthFaults v = [] ↔
    ∃ x n, v.asNumber? = some x ∧ x.whole? = some n ∧ 0 ≤ n := by
  have whole : isWhole v = true ↔ ∃ x n, v.asNumber? = some x ∧ x.whole? = some n := by
    unfold isWhole
    cases v.asNumber? with
    | none => simp
    | some x => cases x <;> simp [Number.whole?, Option.isSome_iff_exists]
  simp only [lengthFaults, typed, List.append_eq_nil_iff, expect_eq_nil_iff, whole,
    Bool.not_eq_true']
  constructor
  · rintro ⟨⟨x, n, number, integer⟩, high⟩
    obtain ⟨there, zero⟩ := Number.zero_le_iff integer
    refine ⟨x, n, number, integer, zero.mp ?_⟩
    simpa [number, there] using high
  · rintro ⟨x, n, number, integer, high⟩
    refine ⟨⟨x, n, number, integer⟩, ?_⟩
    simp [number, (Number.zero_le_iff integer).2.mpr high]

theorem choiceFaults_eq_nil_iff : choiceFaults v = [] ↔
    ∃ first rest, arrayItems? v = some (first :: rest) := by
  unfold choiceFaults
  split
  · next none => simp [none]
  · next items list => cases items <;> simp [expect_eq_nil_iff, list]

/-- What stands beside a keyword has no faults exactly if it may stand there. -/
theorem parameterFaults_eq_nil_iff {k : ConstraintKind} :
    parameterFaults k v = [] ↔ k.Admits v := by
  cases k with
  | format =>
    rw [parameterFaults, textFaults, typed, expect_eq_nil_iff, Option.isSome_iff_exists]
    rfl
  | minLength | maxLength => exact lengthFaults_eq_nil_iff
  | min | max =>
    rw [parameterFaults, numberFaults, typed, expect_eq_nil_iff, Option.isSome_iff_exists]
    rfl
  | oneOf => exact choiceFaults_eq_nil_iff

/-- A map from one keyword has the faults of what stands beside it, and no others. -/
theorem constraintFaults_eq_nil_iff : constraintFaults v = [] ↔ IsConstraint v := by
  constructor
  · intro sound
    unfold constraintFaults at sound
    split at sound
    · cases sound
    · next es entries =>
      obtain ⟨m, object, rfl⟩ := objectEntries?_eq_some_iff.mp entries
      simp only [List.append_eq_nil_iff, expect_eq_nil_iff, List.flatMap_eq_nil_iff,
        atKeyFaults_eq_nil_iff, parameterFaults_eq_nil_iff, strayKeys_eq_nil_iff] at sound
      obtain ⟨⟨⟨some, single⟩, admitted⟩, only⟩ := sound
      match es, some, single with
      | [(key, w)], _, _ =>
        obtain ⟨keyword, known, text⟩ := only (key, w) List.mem_cons_self
        obtain ⟨k, mem, rfl⟩ := List.mem_map.mp known
        exact .intro k object text (admitted k mem w (Value.lookup?_singleton text))
  · intro h
    cases h with
    | @intro m key w k object keyword admitted =>
      have entries : objectEntries? (.mapping m [(key, w)]) = some [(key, w)] :=
        objectEntries?_eq_some_iff.mpr ⟨m, object, rfl⟩
      simp only [constraintFaults, entries, List.append_eq_nil_iff, expect_eq_nil_iff,
        List.flatMap_eq_nil_iff, atKeyFaults_eq_nil_iff, parameterFaults_eq_nil_iff,
        strayKeys_eq_nil_iff]
      refine ⟨⟨⟨rfl, rfl⟩, ?_⟩, ?_⟩
      · intro k' _ w' held
        obtain ⟨key', mem, text⟩ := Value.exists_mem_of_lookup? held
        obtain ⟨rfl, rfl⟩ := Prod.mk.inj (List.mem_singleton.mp mem)
        obtain rfl := ConstraintKind.keyword_inj (Option.some.inj (keyword.symm.trans text))
        exact admitted
      · intro e mem
        obtain rfl := List.mem_singleton.mp mem
        exact ⟨k.keyword, List.mem_map_of_mem k.mem_all, keyword⟩

theorem constraintListFaults_eq_nil_iff : constraintListFaults v = [] ↔
    ∃ items, arrayItems? v = some items ∧ ∀ item ∈ items, IsConstraint item := by
  unfold constraintListFaults
  split
  · next none => simp [none]
  · next items list => simp [list, eachFaults_eq_nil_iff, constraintFaults_eq_nil_iff]

/-! ### Fields -/

theorem insideFaults_eq (es : List (Value × Value)) :
    insideFaults es = atKeyFaults "fields" es fieldListFaults := by
  induction es with
  | nil => rfl
  | cons e rest ih =>
    obtain ⟨k, v⟩ := e
    rw [insideFaults, atKeyFaults, Value.lookup?_cons]
    split
    · rfl
    · exact ih

theorem fieldItemFaults_eq (i : Nat) (items : List Value) : fieldItemFaults i items =
    (items.zipIdx i).flatMap fun (v, i) => (fieldFaults v).map (.under (.index i)) := by
  induction items generalizing i with
  | nil => rfl
  | cons v rest ih => rw [fieldItemFaults, ih, List.zipIdx_cons, List.flatMap_cons]

/-- The faults of a list of fields are those of its items. -/
theorem fieldListFaults_of_items (list : arrayItems? v = some items) :
    fieldListFaults v = eachFaults fieldFaults items := by
  obtain ⟨k, grows, rfl⟩ := arrayItems?_eq_some_iff.mp list
  rw [fieldListFaults, if_pos grows, fieldItemFaults_eq, eachFaults]

/-- What is no list of a document has the one fault of being none. -/
theorem fieldListFaults_of_no_items (none : arrayItems? v = none) :
    fieldListFaults v = [.here (.ofType v "array")] := by
  unfold fieldListFaults
  split
  · next k items => exact if_neg fun grows => by simp [arrayItems?, grows] at none
  · rfl

theorem fieldListFaults_eq_nil_iff_items : fieldListFaults v = [] ↔
    ∃ items, arrayItems? v = some items ∧ ∀ entry ∈ items, fieldFaults entry = [] := by
  cases list : arrayItems? v with
  | none => simp [fieldListFaults_of_no_items list]
  | some items => simp [fieldListFaults_of_items list, eachFaults_eq_nil_iff]

theorem nameFaults_eq_nil_iff : nameFaults v = [] ↔ ∃ s, v.asText? = some s ∧ s ≠ "" := by
  unfold nameFaults
  split
  · next none => simp [textFaults, typed, expect_eq_nil_iff, none]
  · next s text => simp [expect_eq_nil_iff, text]

theorem flagFaults_eq_nil_iff : flagFaults v = [] ↔ ∃ b, v = .bool b := by
  cases v <;> simp [flagFaults, typed, expect_eq_nil_iff]

theorem fieldFaults_mapping {m : MappingKind} (object : m ≠ .view) :
    fieldFaults (.mapping m es) =
      fieldEntryFaults es (atKeyFaults "fields" es fieldListFaults) := by
  rw [← insideFaults_eq, fieldFaults, if_pos (MappingKind.isOwn_iff.mpr object)]

theorem mapping_of_fieldFaults_eq_nil (sound : fieldFaults v = []) :
    ∃ m es, m ≠ .view ∧ v = .mapping m es := by
  unfold fieldFaults at sound
  split at sound
  · next m es =>
    split at sound
    · next own => exact ⟨m, es, MappingKind.isOwn_iff.mp own, rfl⟩
    · cases sound
  · cases sound

/-- The entries of a field have no faults exactly if each part does not. -/
theorem fieldEntryFaults_eq_nil_iff :
    fieldEntryFaults es (atKeyFaults "fields" es fieldListFaults) = [] ↔
      (∃ v s, Value.lookup? (.text "name") es = some v ∧ v.asText? = some s ∧ s ≠ "") ∧
      (∃ v t, Value.lookup? (.text "type") es = some v ∧ WritesType v t) ∧
      (∀ v, Value.lookup? (.text "required") es = some v → ∃ b, v = .bool b) ∧
      (∀ v, Value.lookup? (.text "constraints") es = some v →
        ∃ items, arrayItems? v = some items ∧ ∀ item ∈ items, IsConstraint item) ∧
      (∀ v, Value.lookup? (.text "fields") es = some v → fieldListFaults v = []) ∧
      OnlyKeys ["name", "type", "required", "constraints", "fields"] es := by
  simp only [fieldEntryFaults, List.append_eq_nil_iff, missingKeys_eq_nil_iff,
    List.forall_mem_cons, atKeyFaults_eq_nil_iff, strayKeys_eq_nil_iff, nameFaults_eq_nil_iff,
    typeFaults_eq_nil_iff, flagFaults_eq_nil_iff, constraintListFaults_eq_nil_iff, and_assoc]
  constructor
  · rintro ⟨⟨v, hv⟩, ⟨w, hw⟩, -, name, type, flag, constraints, inside, only⟩
    obtain ⟨s, text, some⟩ := name v hv
    obtain ⟨t, written⟩ := type w hw
    exact ⟨⟨v, s, hv, text, some⟩, ⟨w, t, hw, written⟩, flag, constraints, inside, only⟩
  · rintro ⟨⟨v, s, hv, text, some⟩, ⟨w, t, hw, written⟩, flag, constraints, inside, only⟩
    refine ⟨⟨v, hv⟩, ⟨w, hw⟩, nofun, ?_, ?_, flag, constraints, inside, only⟩
    · intro v' hv'
      cases hv.symm.trans hv'
      exact ⟨s, text, some⟩
    · intro w' hw'
      cases hw.symm.trans hw'
      exact ⟨t, written⟩

/-- A value has no faults as a field exactly if it is one. -/
theorem fieldFaults_eq_nil_iff (v : Value) : fieldFaults v = [] ↔ IsField v := by
  induction v using fieldInduction with
  | field v ih =>
  constructor
  · intro sound
    obtain ⟨m, es, object, rfl⟩ := mapping_of_fieldFaults_eq_nil sound
    rw [fieldFaults_mapping object, fieldEntryFaults_eq_nil_iff] at sound
    obtain ⟨named, typed, flagged, constrained, listed, only⟩ := sound
    refine .intro object named typed flagged constrained ?_ ?_ only
    · intro v held
      obtain ⟨items, list, -⟩ := fieldListFaults_eq_nil_iff_items.mp (listed v held)
      exact ⟨items, list⟩
    · intro v items held array entry mem
      obtain ⟨items', list, each⟩ := fieldListFaults_eq_nil_iff_items.mp (listed _ held)
      cases array.symm.trans list
      exact (ih _ _ _ _ rfl held array entry mem).mp (each entry mem)
  · intro h
    cases h with
    | intro object named typed flagged constrained listed inside only =>
      rw [fieldFaults_mapping object, fieldEntryFaults_eq_nil_iff]
      refine ⟨named, typed, flagged, constrained, ?_, only⟩
      intro v held
      obtain ⟨items, array⟩ := listed v held
      refine fieldListFaults_eq_nil_iff_items.mpr ⟨items, array, ?_⟩
      intro entry mem
      exact (ih _ _ _ _ rfl held array entry mem).mpr (inside v items held array entry mem)

theorem fieldListFaults_eq_nil_iff : fieldListFaults v = [] ↔ IsFieldList v := by
  simp only [fieldListFaults_eq_nil_iff_items, fieldFaults_eq_nil_iff, IsFieldList]

/-! ### Documents -/

theorem contractsFaults_eq_nil_iff : contractsFaults v = [] ↔
    ∃ m es, m ≠ .view ∧ v = .mapping m es ∧ ∀ e ∈ es, IsFieldList e.2 := by
  unfold contractsFaults
  split
  · next none =>
    refine ⟨nofun, ?_⟩
    rintro ⟨m, es, object, rfl, -⟩
    rw [objectEntries?_eq_some_iff.mpr ⟨m, object, rfl⟩] at none
    cases none
  · next es entries =>
    obtain ⟨m, object, rfl⟩ := objectEntries?_eq_some_iff.mp entries
    simp only [List.flatMap_eq_nil_iff, List.map_eq_nil_iff, fieldListFaults_eq_nil_iff]
    constructor
    · intro each
      exact ⟨m, es, object, rfl, each⟩
    · rintro ⟨_, _, -, ⟨⟩, each⟩
      exact each

/-- A value has no faults as a document exactly if it is one. -/
theorem faults_eq_nil_iff : faults document = [] ↔ IsDocument document := by
  constructor
  · intro sound
    unfold faults at sound
    split at sound
    · cases sound
    · next es entries =>
      obtain ⟨m, object, rfl⟩ := objectEntries?_eq_some_iff.mp entries
      simp only [List.append_eq_nil_iff, missingKeys_eq_nil_iff, atKeyFaults_eq_nil_iff,
        strayKeys_eq_nil_iff, contractsFaults_eq_nil_iff] at sound
      obtain ⟨⟨there, contracts⟩, only⟩ := sound
      obtain ⟨v, held⟩ := there "contracts" List.mem_cons_self
      obtain ⟨m', cs, object', rfl, fields⟩ := contracts v held
      exact .intro object held object' fields only
  · intro h
    cases h with
    | @intro m m' es contracts object held object' fields only =>
      have entries : objectEntries? (.mapping m es) = some es :=
        objectEntries?_eq_some_iff.mpr ⟨m, object, rfl⟩
      simp only [faults, entries, List.append_eq_nil_iff, missingKeys_eq_nil_iff,
        atKeyFaults_eq_nil_iff, strayKeys_eq_nil_iff, contractsFaults_eq_nil_iff,
        List.forall_mem_singleton]
      refine ⟨⟨⟨_, held⟩, ?_⟩, only⟩
      intro v hv
      cases held.symm.trans hv
      exact ⟨m', contracts, object', rfl, fields⟩

theorem contractEntries_mapping {m : MappingKind}
    (held : Value.lookup? (.text "contracts") es = some v) :
    contractEntries (.mapping m es) = v.asEntries?.getD [] := by
  simp only [contractEntries, Value.asEntries?, Option.getD_some, held, Option.bind_some]

/-- The contracts of a document are lists of fields. -/
theorem isFieldList_of_document (h : IsDocument document) :
    ∀ e ∈ contractEntries document, IsFieldList e.2 := by
  cases h with
  | intro object held object' fields only =>
    rw [contractEntries_mapping held]
    exact fields

end Definition

end DataContract
