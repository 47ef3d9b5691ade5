/-
Types and the ways to spell them.

In code a type is spelled by a kind's member or name, by a list type, or by a pair of `list` and a
spelling of the items' type, mixed at will from level to level (`Spells`); in a document also by a map
that has the items' type under `list` (`DocumentSpells`). A type is declared from a value exactly if
the value spells it (`FieldType.declared_eq_ok_iff`, `Definition.typeOf_eq_ok_iff`), so all its
spellings come to the same type and nothing else is accepted.

The name of a type is what the type shows as a value (`FieldType.display_toValue`), and no two types
have one name (`FieldType.name_inj`). So a violation that tells which type was expected tells the
declared type. `spellings_denote_type` puts this together.
-/
import DataContract.Proofs.Contract.Value
import DataContract.Proofs.Definition.Conversion
import DataContract.Proofs.Validation.Mismatch

namespace DataContract

/-! ### Spellings -/

/-- A value spells a type. -/
inductive Spells : Value → FieldType → Prop where
  /-- The member that a kind is. -/
  | member (k : FieldKind) : Spells (.atom k.toAtom) (.kind k)
  /-- The name of a kind. -/
  | name {v : Value} {k : FieldKind} (text : v.asText? = some k.name) : Spells v (.kind k)
  /-- A list type. -/
  | listOf (item : FieldType) : Spells (FieldType.listOf item).toValue (.listOf item)
  /-- A pair of `list` and a spelling of the items' type. -/
  | pair {k : SequenceKind} {head item : Value} {t : FieldType} (tuple : k.grows = false)
    (list : head.asText? = some "list") (inside : Spells item t) :
    Spells (.sequence k [head, item]) (.listOf t)

/-- A value spells a type as documents may: a map has a spelling of the items' type under `list`. -/
inductive DocumentSpells : Value → FieldType → Prop where
  | spelled {v : Value} {t : FieldType} (spells : Spells v t) : DocumentSpells v t
  | items {m : MappingKind} {es : List (Value × Value)} {item : Value} {t : FieldType}
    (object : m ≠ .view) (held : Value.lookup? (.text "list") es = some item)
    (inside : DocumentSpells item t) : DocumentSpells (.mapping m es) (.listOf t)

/-! ### Declaring from a spelling -/

namespace FieldType

variable {v : Value} {t t' : FieldType}

/-- A type spells itself. -/
theorem spells_toValue (t : FieldType) : Spells t.toValue t := by
  cases t with
  | kind k => exact .member k
  | listOf item => exact .listOf item

/-- A value is a type only as the type shows itself. -/
theorem eq_toValue_of_ofValue? (h : ofValue? v = some t) : v = t.toValue := by
  induction v using ofValue?.induct generalizing t with
  | case1 a =>
    obtain ⟨k, member, rfl⟩ := Option.map_eq_some_iff.mp h
    have same : k.toAtom = a := by simpa using List.find?_some member
    rw [toValue, same]
  | case2 item ih =>
    rw [ofValue?] at h
    obtain ⟨inner, known, rfl⟩ := Option.map_eq_some_iff.mp h
    rw [toValue, ih known]
  | case3 v _ _ =>
    rw [ofValue?] at h
    · cases h
    all_goals assumption

theorem declared_toValue (t : FieldType) : declared t.toValue = .ok t := by
  unfold declared
  simp only [ofValue?_toValue]

theorem isListWord_iff : isListWord v = true ↔ v.asText? = some "list" :=
  Value.beq_text_iff

theorem declared_pair {k : SequenceKind} {head : Value} (tuple : k.grows = false)
    (list : head.asText? = some "list") :
    declared (.sequence k [head, v]) = (declared v).map .listOf := by
  show (if !k.grows && isListWord head then (declared v).map listOf else _) = _
  rw [tuple, isListWord_iff.mpr list]
  rfl

theorem refuseShown_ne_ok {fault : String → DeclarationFault} : refuseShown fault v ≠ .ok t := by
  rw [refuseShown]
  split <;> exact nofun

/-- What is declared as a type spells it. -/
theorem spells_of_declared (h : declared v = .ok t) : Spells v t := by
  induction v using declared.induct generalizing t with
  | case1 v s known =>
    unfold declared at h
    simp only [known, Except.ok.injEq] at h
    rw [eq_toValue_of_ofValue? known, h]
    exact spells_toValue t
  | case2 word v text none =>
    unfold declared at h
    simp only [none, text, ofWord] at h
    split at h
    · next k known =>
      cases h
      obtain rfl := FieldKind.ofName?_eq_some_iff.mp known
      exact .name text
    · exact absurd h refuseShown_ne_ok
  | case3 k head item pair _ _ ih =>
    rw [Bool.and_eq_true, Bool.not_eq_true', isListWord_iff] at pair
    obtain ⟨tuple, list⟩ := pair
    rw [declared_pair tuple list, map_eq_ok_iff] at h
    obtain ⟨inner, inside, rfl⟩ := h
    exact .pair tuple list (ih inside)
  | case4 k head item other text none =>
    unfold declared at h
    simp only [none, text, if_neg other] at h
    exact absurd h refuseShown_ne_ok
  | case5 v other text none =>
    unfold declared at h
    simp only [none, text] at h
    exact absurd h refuseShown_ne_ok

/-- A value declares a type exactly if it spells the type. -/
theorem declared_eq_ok_iff : declared v = .ok t ↔ Spells v t := by
  refine ⟨spells_of_declared, fun h => ?_⟩
  induction h with
  | member k => exact declared_toValue (.kind k)
  | name text => exact Definition.declared_of_name text
  | listOf item => exact declared_toValue (.listOf item)
  | pair tuple list inside ih =>
    rw [declared_pair tuple list, ih]
    rfl

/-- A list type is declared from a spelling of its items' type. -/
theorem declaredList_eq_ok_iff :
    declaredList v = .ok t ↔ ∃ item, t = .listOf item ∧ Spells v item := by
  rw [declaredList, map_eq_ok_iff]
  exact exists_congr fun item => and_comm.trans (and_congr eq_comm declared_eq_ok_iff)

end FieldType

namespace Definition

variable {v : Value} {t : FieldType} {es : List (Value × Value)}

theorem itemTypeOf_eq : itemTypeOf es =
    (Value.lookup? (.text "list") es).map fun v => (typeOf v).map .listOf := by
  induction es with
  | nil => rfl
  | cons e rest ih =>
    obtain ⟨k, v⟩ := e
    rw [itemTypeOf, Value.lookup?_cons, ih]
    split <;> rfl

theorem typeOf_mapping {m : MappingKind} (object : m ≠ .view) : typeOf (.mapping m es) =
    ((Value.lookup? (.text "list") es).map fun v => (typeOf v).map .listOf).getD
      (.error (.missingKey "list")) := by
  rw [typeOf, itemTypeOf_eq]
  exact object

/-- What is no map of a document writes a type as it declares one. -/
theorem typeOf_eq_ok_iff_declared (other : ∀ m es, v = .mapping m es → m = .view) :
    typeOf v = .ok t ↔ FieldType.declared v = .ok t := by
  have declared : typeOf v = (FieldType.declared v).mapError ConversionFault.declaration := by
    cases v with
    | mapping m es =>
      obtain rfl := other m es rfl
      rw [typeOf]
    | _ => simp only [typeOf]
  rw [declared, mapError_eq_ok_iff]

/-- A map spells no type in code. -/
theorem not_spells_mapping {m : MappingKind} : ¬Spells (.mapping m es) t := by
  intro h
  cases h with
  | name text => cases text

theorem documentSpells_of_typeOf (v : Value) {t : FieldType} (h : typeOf v = .ok t) :
    DocumentSpells v t := by
  by_cases map : ∃ m es, v = .mapping m es ∧ m ≠ .view
  · obtain ⟨m, es, rfl, object⟩ := map
    rw [typeOf_mapping object] at h
    cases held : Value.lookup? (.text "list") es with
    | none =>
      rw [held] at h
      cases h
    | some item =>
      rw [held, Option.map_some, Option.getD_some, map_eq_ok_iff] at h
      obtain ⟨inner, inside, rfl⟩ := h
      exact .items object held (documentSpells_of_typeOf item inside)
  · simp only [not_exists, not_and, not_not] at map
    exact .spelled (FieldType.declared_eq_ok_iff.mp ((typeOf_eq_ok_iff_declared map).mp h))
termination_by sizeOf v
decreasing_by
  subst_vars
  exact Value.sizeOf_lt_of_lookup? held

/-- A value of a document writes a type exactly if it spells the type as documents may. -/
theorem typeOf_eq_ok_iff : typeOf v = .ok t ↔ DocumentSpells v t := by
  refine ⟨documentSpells_of_typeOf v, fun h => ?_⟩
  induction h with
  | @spelled v t spells =>
    refine (typeOf_eq_ok_iff_declared ?_).mpr (FieldType.declared_eq_ok_iff.mpr spells)
    rintro m es rfl
    exact absurd spells not_spells_mapping
  | items object held inside ih =>
    rw [typeOf_mapping object, held, Option.map_some, Option.getD_some, ih]
    rfl

end Definition

/-! ### Names -/

namespace FieldType

/-- A type is called what its value shows. -/
theorem display_toValue (t : FieldType) : t.toValue.display = .ok t.name := by
  have shown : ∀ t : FieldType, Value.listTypeText t.toValue = .ok t.name := by
    intro t
    induction t with
    | kind k => rfl
    | listOf item ih =>
      rw [toValue, Value.listTypeText, ih]
      rfl
  cases t with
  | kind k => rfl
  | listOf item => exact shown (.listOf item)

theorem nameAsType_toValue (t : FieldType) : t.toValue.nameAsType = .ok t.name := by
  induction t with
  | kind k => rfl
  | listOf item ih =>
    rw [toValue, Value.nameAsType, ih]
    rfl

theorem name_listOf_ne_name {item : FieldType} {k : FieldKind} : (listOf item).name ≠ k.name := by
  intro same
  have letters := congrArg String.toList same
  cases k <;> simp [name, FieldKind.name] at letters

theorem name_inj {t t' : FieldType} : t.name = t'.name ↔ t = t' := by
  refine ⟨fun same => ?_, congrArg name⟩
  induction t generalizing t' with
  | kind k =>
    cases t' with
    | kind k' => rw [FieldKind.name_inj.mp same]
    | listOf item => exact absurd same.symm name_listOf_ne_name
  | listOf item ih =>
    cases t' with
    | kind k => exact absurd same name_listOf_ne_name
    | listOf item' => rw [ih (String.append_right_inj _ |>.mp same)]

end FieldType

/-! ### Types in violations -/

/-- The sentence on a value of another type tells the type that was expected. -/
theorem FieldType.eq_of_expected {front : String} {t t' : FieldType} {v v' : Value}
    (same : front ++ t.name ++ ", got " ++ v.kindName =
      front ++ t'.name ++ ", got " ++ v'.kindName) : t = t' :=
  name_inj.mp (expected_got_inj t.comma_not_mem_name v.comma_not_mem_kindName same).1

namespace Field

variable {f g : Field} {entries entries' : List (Value × Value)} {path path' : List String}
  {v v' : Value} {item item' : FieldType} {items items' : List Value}

/-- Where two fields hold values of other types, each makes one violation, and they read alike only
if one type was expected. -/
theorem type_eq_of_mistyped (held : f.held? entries = some v) (other : f.type.accepts v = false)
    (held' : g.held? entries' = some v') (other' : g.type.accepts v' = false) :
    ∃ w w', f.validate entries path = .ok [w] ∧ g.validate entries' path' = .ok [w'] ∧
      w.error = "expected " ++ f.type.name ++ ", got " ++ v.kindName ∧
      (w.error = w'.error → f.type = g.type) :=
  ⟨_, _, validate_of_mistyped held other, validate_of_mistyped held' other', rfl,
    FieldType.eq_of_expected⟩

/-- Two violations for items of other types, wherever they were made, read alike only if items of
one type were expected. -/
theorem item_eq_of_itemViolations {name name' : String} {w w' : Violation}
    (mem : w ∈ itemViolations name item path items)
    (mem' : w' ∈ itemViolations name' item' path' items') (same : w.error = w'.error) :
    item = item' := by
  obtain ⟨v, -, rfl⟩ := List.mem_map.mp mem
  obtain ⟨v', -, rfl⟩ := List.mem_map.mp mem'
  exact FieldType.eq_of_expected same

end Field

/-- All spellings of a type denote that type.

* In code a value declares a type exactly if it spells it, by members, names, list types and pairs at
  each level, and in documents by maps of an items' type too; a list type is declared from any
  spelling of its items' type.
* A type is declared from itself, in code and in documents.
* What spells no type is refused.
* A type is called what its value shows, and no two types are called alike.
* Violations of fields that hold values, or items, of other types read alike only if the fields are
  declared with one type. -/
theorem spellings_denote_type :
    (∀ v t, FieldType.declared v = .ok t ↔ Spells v t) ∧
    (∀ v t, Definition.typeOf v = .ok t ↔ DocumentSpells v t) ∧
    (∀ item t, FieldType.declaredList item = .ok t ↔ ∃ inner, t = .listOf inner ∧
      Spells item inner) ∧
    (∀ t : FieldType, FieldType.declared t.toValue = .ok t ∧ Definition.typeOf t.toValue = .ok t) ∧
    (∀ v, (∃ fault, FieldType.declared v = .error fault) ↔ ¬∃ t, Spells v t) ∧
    (∀ v, (∃ fault, Definition.typeOf v = .error fault) ↔ ¬∃ t, DocumentSpells v t) ∧
    (∀ t : FieldType, t.toValue.nameAsType = .ok t.name ∧ t.toValue.display = .ok t.name) ∧
    (∀ t t' : FieldType, t.name = t'.name ↔ t = t') ∧
    (∀ (f g : Field) (entries entries' : List (Value × Value)) (path path' : List String)
      (v v' : Value), f.held? entries = some v → f.type.accepts v = false →
      g.held? entries' = some v' → g.type.accepts v' = false →
      ∃ w w', f.validate entries path = .ok [w] ∧ g.validate entries' path' = .ok [w'] ∧
        w.error = "expected " ++ f.type.name ++ ", got " ++ v.kindName ∧
        (w.error = w'.error → f.type = g.type)) ∧
    ∀ (f g : Field) (entries entries' : List (Value × Value)) (path path' : List String)
      (item item' : FieldType) (k k' : SequenceKind) (items items' : List Value),
      f.type = .listOf item → f.held? entries = some (.sequence k items) →
      Constraint.AllPass f.constraints (.sequence k items) →
      g.type = .listOf item' → g.held? entries' = some (.sequence k' items') →
      Constraint.AllPass g.constraints (.sequence k' items') →
      ∃ ws ws', f.validate entries path = .ok ws ∧ g.validate entries' path' = .ok ws' ∧
        ws.map (·.error) = (items.filter fun v => !item.accepts v).map (fun v =>
          "invalid list item: expected " ++ item.name ++ ", got " ++ v.kindName) ∧
        ∀ w ∈ ws, ∀ w' ∈ ws', w.error = w'.error → f.type = g.type := by
  refine ⟨fun v t => FieldType.declared_eq_ok_iff, fun v t => Definition.typeOf_eq_ok_iff,
    fun item t => FieldType.declaredList_eq_ok_iff, fun t => ⟨t.declared_toValue, ?_⟩,
    fun v => ?_, fun v => ?_, fun t => ⟨t.nameAsType_toValue, t.display_toValue⟩,
    fun t t' => FieldType.name_inj, ?_, ?_⟩
  · exact Definition.typeOf_eq_ok_iff.mpr (.spelled t.spells_toValue)
  · simp only [exists_error_iff, FieldType.declared_eq_ok_iff]
  · simp only [exists_error_iff, Definition.typeOf_eq_ok_iff]
  · intro f g entries entries' path path' v v' held other held' other'
    exact Field.type_eq_of_mistyped held other held' other'
  · intro f g entries entries' path path' item item' k k' items items' type held pass type' held'
      pass'
    refine ⟨_, _, Field.validate_of_items held type pass, Field.validate_of_items held' type' pass',
      ?_, fun w mem w' mem' same => ?_⟩
    · rw [itemViolations, List.map_map]
      rfl
    · rw [type, type', Field.item_eq_of_itemViolations mem mem' same]

/-- A field of names. -/
def namesField : Field :=
  ⟨"names", .listOf (.kind .string), true, [], none⟩

/-- A field of lists of names. -/
def nameListsField : Field :=
  ⟨"names", .listOf namesField.type, true, [], none⟩

/-- The type of lists of names is spelled in code by a pair and in a document by a map, and is told
apart from the type of names. -/
theorem nameListsField_spelled :
    FieldType.declared (.tuple [.text "list", namesField.type.toValue]) =
      .ok nameListsField.type ∧
    Definition.typeOf (.map [(.text "list", .tuple [.text "list", .text "string"])]) =
      .ok nameListsField.type ∧
    (∃ fault, FieldType.declared (.tuple [.text "map", .text "string"]) = .error fault) ∧
    (∃ w w', namesField.validate [(.text "names", .int 7)] [] = .ok [w] ∧
      nameListsField.validate [(.text "names", .null)] [] = .ok [w'] ∧
      w.error = "expected list of string, got integer" ∧
      (w.error = w'.error → namesField.type = nameListsField.type)) ∧
    ∃ ws ws', nameListsField.validate [(.text "names", .list [.int 7, .list []])] [] = .ok ws ∧
      namesField.validate [(.text "names", .list [.null])] [] = .ok ws' ∧
      ws.map (·.error) = ["invalid list item: expected list of string, got integer"] ∧
      ∀ w ∈ ws, ∀ w' ∈ ws', w.error = w'.error → nameListsField.type = namesField.type := by
  obtain ⟨inCode, inDocument, -, -, refused, -, -, -, mistyped, items⟩ := spellings_denote_type
  have list : (Value.text "list").asText? = some "list" := rfl
  have held : ∀ v, Value.lookup? (.text "names") [(.text "names", v)] = some v :=
    fun v => Value.lookup?_singleton rfl
  refine ⟨(inCode _ _).mpr (.pair rfl list (.listOf _)), (inDocument _ _).mpr ?_, (refused _).mpr ?_,
    mistyped namesField nameListsField _ _ [] [] (.int 7) .null (held _) rfl (held _) rfl,
    items nameListsField namesField _ _ [] [] namesField.type (.kind .string) .list .list
      [.int 7, .list []] [.null] rfl (held _) (List.forall_mem_nil _) rfl (held _) (List.forall_mem_nil _)⟩
  · exact .items (by decide) (Value.lookup?_singleton list) (.spelled (.pair rfl list (.name rfl)))
  · rintro ⟨t, spells⟩
    cases spells with
    | name text => cases text
    | pair _ text => exact absurd (Option.some.inj text) (by decide)

end DataContract
