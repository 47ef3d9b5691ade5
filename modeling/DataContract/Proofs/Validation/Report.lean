/-
What the validation of one field can do.

`Field.step` is the whole of it: a field makes its own report (`Field.Report`), or lets the fields
inside it be validated (`Field.Inside`), or one of its constraints comes to no answer. Whatever is
proved of a validation is proved from these three cases and by induction over the contract.

* `Field.Report` — the reports that a field makes itself, one constructor for each kind;
* `Field.Inside` — a map field with fields of its own that the validation goes into.
-/
import DataContract.Validation.Engine
import DataContract.Proofs.Contract.Check
import DataContract.Proofs.Contract.Tree

namespace DataContract

open Constraint

/-! ### Values that types accept -/

theorem exists_mapping_of_accepts {v : Value} (h : (FieldType.kind .map).accepts v = true) :
    ∃ k entries, v = .mapping k entries := by
  cases v with
  | mapping k entries => exact ⟨k, entries, rfl⟩
  | _ => simp [FieldType.accepts, FieldKind.accepts] at h

theorem exists_sequence_of_accepts {item : FieldType} {v : Value}
    (h : (FieldType.listOf item).accepts v = true) : ∃ k items, v = .sequence k items := by
  cases v with
  | sequence k items => exact ⟨k, items, rfl⟩
  | _ => simp [FieldType.accepts, FieldKind.accepts] at h

namespace Field

/-- What entries hold under the name of a field. -/
def held? (f : Field) (entries : List (Value × Value)) : Option Value :=
  Value.lookup? (.text f.name) entries

/-- The violations of a field with the messages given, in their order. -/
def saying (f : Field) (path : List String) (messages : List String) : List Violation :=
  messages.map fun m => ⟨f.name, m, path⟩

/-- A map field has fields `nested` of its own, and the entries hold a map under its name that
passes its constraints and has the entries `inner`. -/
structure Inside (f : Field) (entries : List (Value × Value)) (nested : List Field)
    (inner : List (Value × Value)) : Prop where
  type : f.type = .kind .map
  fields : f.nested = some nested
  held : ∃ k, f.held? entries = some (.mapping k inner) ∧ AllPass f.constraints (.mapping k inner)

/-- The reports that a field makes itself. -/
inductive Report (f : Field) (entries : List (Value × Value)) (path : List String) :
    List Violation → Prop where
  | optional (absent : f.held? entries = none) (free : f.required = false) :
    Report f entries path []
  | missing (absent : f.held? entries = none) (needed : f.required = true) :
    Report f entries path (f.saying path ["is required"])
  | mistyped {v : Value} (held : f.held? entries = some v) (other : f.type.accepts v = false) :
    Report f entries path
      (f.saying path ["expected " ++ f.type.name ++ ", got " ++ v.kindName])
  | failing {v : Value} (held : f.held? entries = some v) (typed : f.type.accepts v = true)
    (answered : ∀ c ∈ f.constraints, ∃ a, c.check v = .ok a)
    (fails : ¬AllPass f.constraints v) :
    Report f entries path (f.saying path (f.constraints.filterMap (·.message? v)))
  | items {k : SequenceKind} {items : List Value} {item : FieldType}
    (held : f.held? entries = some (.sequence k items)) (type : f.type = .listOf item)
    (pass : AllPass f.constraints (.sequence k items)) :
    Report f entries path (itemViolations f.name item path items)
  | sound {v : Value} (held : f.held? entries = some v) (typed : f.type.accepts v = true)
    (pass : AllPass f.constraints v) (plain : ∀ item, f.type ≠ .listOf item) :
    Report f entries path []

/-- What the validation of a field can do. -/
inductive Step (f : Field) (entries : List (Value × Value)) (path : List String) :
    Except CheckFault (List Violation) → Prop where
  | report {own : List Violation} (report : f.Report entries path own)
    (leaf : ∀ nested inner, ¬f.Inside entries nested inner) : Step f entries path (.ok own)
  | inside {nested : List Field} {inner : List (Value × Value)}
    (inside : f.Inside entries nested inner) :
    Step f entries path (validateFields inner (path ++ [f.name]) nested)
  | stuck {v : Value} {c : Constraint} {e : CheckFault} (held : f.held? entries = some v)
    (typed : f.type.accepts v = true) (mem : c ∈ f.constraints) (stuck : c.Unanswerable v) :
    Step f entries path (.error e)

variable {f : Field} {entries inner inner' : List (Value × Value)} {path : List String}
  {nested nested' : List Field} {v : Value}

theorem Inside.unique (h : f.Inside entries nested inner) (h' : f.Inside entries nested' inner') :
    nested = nested' ∧ inner = inner' := by
  obtain ⟨k, hk, -⟩ := h.held
  obtain ⟨k', hk', -⟩ := h'.held
  have hv := hk.symm.trans hk'
  simp only [Option.some.injEq, Value.mapping.injEq] at hv
  exact ⟨Option.some.inj (h.fields.symm.trans h'.fields), hv.2⟩

/-- The map that the validation goes into has the field's type and passes its constraints. -/
theorem Inside.pass (h : f.Inside entries nested inner) (hv : f.held? entries = some v) :
    f.type.accepts v = true ∧ AllPass f.constraints v := by
  obtain ⟨type, -, k, held, pass⟩ := h
  obtain rfl := Option.some.inj (hv.symm.trans held)
  rw [type]
  exact ⟨rfl, pass⟩

/-! ### The validation of a field, case by case -/

theorem validate_of_absent (h : f.held? entries = none) :
    f.validate entries path = .ok (if f.required then f.saying path ["is required"] else []) := by
  obtain ⟨name, type, required, constraints, fields⟩ := f
  simp only [held?] at h
  simp only [Field.validate, h, saying, List.map_cons, List.map_nil]

theorem validate_of_mistyped (h : f.held? entries = some v) (ht : f.type.accepts v = false) :
    f.validate entries path =
      .ok (f.saying path ["expected " ++ f.type.name ++ ", got " ++ v.kindName]) := by
  obtain ⟨name, type, required, constraints, fields⟩ := f
  simp only [held?] at h ht
  simp only [Field.validate, h, ht, saying, List.map_cons, List.map_nil, Bool.not_false, if_true]

theorem validate_of_stuck {e : CheckFault} (h : f.held? entries = some v)
    (ht : f.type.accepts v = true) (hc : checkAll f.constraints v = .error e) :
    f.validate entries path = .error e := by
  obtain ⟨name, type, required, constraints, fields⟩ := f
  simp only [held?] at h ht hc
  simp only [Field.validate, h, ht, hc, Bool.not_true, Bool.false_eq_true, if_false]
  rfl

theorem validate_of_failing {messages : List String} (h : f.held? entries = some v)
    (ht : f.type.accepts v = true) (hc : checkAll f.constraints v = .ok messages)
    (hm : messages ≠ []) : f.validate entries path = .ok (f.saying path messages) := by
  obtain ⟨name, type, required, constraints, fields⟩ := f
  simp only [held?] at h ht hc
  simp only [Field.validate, h, ht, hc, Bool.not_true, Bool.false_eq_true, if_false]
  show (if messages.isEmpty then _ else _) = _
  rw [if_neg (by simpa using hm)]
  rfl

theorem validate_of_inside (h : f.Inside entries nested inner) :
    f.validate entries path = validateFields inner (path ++ [f.name]) nested := by
  obtain ⟨name, type, required, constraints, fields⟩ := f
  obtain ⟨rfl, rfl, k, held, pass⟩ := h
  simp only [held?] at held pass
  rw [← checkAll_eq_nil_iff] at pass
  simp only [Field.validate, held, pass, FieldType.accepts, FieldKind.accepts, Bool.not_true,
    Bool.false_eq_true, if_false]
  show validateNested inner (path ++ [name]) (some nested) = _
  rw [validateNested]

theorem validate_of_items {k : SequenceKind} {items : List Value} {item : FieldType}
    (h : f.held? entries = some (.sequence k items)) (ht : f.type = .listOf item)
    (hc : AllPass f.constraints (.sequence k items)) :
    f.validate entries path = .ok (itemViolations f.name item path items) := by
  obtain ⟨name, type, required, constraints, fields⟩ := f
  simp only [held?] at h ht hc
  subst ht
  rw [← checkAll_eq_nil_iff] at hc
  simp only [Field.validate, h, hc, FieldType.accepts, FieldKind.accepts, Bool.not_true,
    Bool.false_eq_true, if_false]
  rfl

theorem validate_of_plain (h : f.held? entries = some v) (ht : f.type.accepts v = true)
    (hc : AllPass f.constraints v) (plain : ∀ item, f.type ≠ .listOf item)
    (leaf : ∀ nested inner, ¬f.Inside entries nested inner) :
    f.validate entries path = .ok [] := by
  obtain ⟨name, type, required, constraints, fields⟩ := f
  simp only [held?] at h ht hc plain
  have hn := checkAll_eq_nil_iff.mpr hc
  simp only [Field.validate, h, ht, hn, Bool.not_true, Bool.false_eq_true, if_false]
  cases type with
  | listOf item => exact absurd rfl (plain item)
  | kind k =>
    cases k with
    | map =>
      obtain ⟨k, inner, rfl⟩ := exists_mapping_of_accepts ht
      -- only a map with fields of its own would be gone into
      cases fields with
      | none => rfl
      | some nested => exact absurd ⟨rfl, rfl, k, h, hc⟩ (leaf nested inner)
    | _ => rfl

/-! ### All cases together -/

theorem step_of_pass (h : f.held? entries = some v) (ht : f.type.accepts v = true)
    (pass : AllPass f.constraints v) : f.Step entries path (f.validate entries path) := by
  by_cases go : ∃ nested inner, f.Inside entries nested inner
  · obtain ⟨nested, inner, inside⟩ := go
    rw [validate_of_inside inside]
    exact .inside inside
  · have leaf : ∀ nested inner, ¬f.Inside entries nested inner :=
      fun nested inner inside => go ⟨nested, inner, inside⟩
    cases type : f.type with
    | kind k =>
      have plain : ∀ item, f.type ≠ .listOf item := fun item => by rw [type]; exact nofun
      rw [validate_of_plain h ht pass plain leaf]
      exact .report (.sound h ht pass plain) leaf
    | listOf item =>
      obtain ⟨k, items, rfl⟩ := exists_sequence_of_accepts (type ▸ ht)
      rw [validate_of_items h type pass]
      exact .report (.items h type pass) leaf

theorem step_of_fails (h : f.held? entries = some v) (ht : f.type.accepts v = true)
    (answered : ∀ c ∈ f.constraints, ∃ a, c.check v = .ok a) (fails : ¬AllPass f.constraints v) :
    f.Step entries path (f.validate entries path) := by
  have hc := checkAll_eq_ok_iff.mpr ⟨answered, rfl⟩
  have said : f.constraints.filterMap (·.message? v) ≠ [] :=
    fun silent => fails (checkAll_eq_nil_iff.mp (silent ▸ hc))
  -- a field with something to say of its own is not gone into
  rw [validate_of_failing h ht hc said]
  exact .report (.failing h ht answered fails) fun nested inner inside =>
    fails (inside.pass h).2

/-- What the validation of a field does, whatever the field and the entries. -/
theorem step (f : Field) (entries : List (Value × Value)) (path : List String) :
    f.Step entries path (f.validate entries path) := by
  cases h : f.held? entries with
  | none =>
    have leaf : ∀ nested inner, ¬f.Inside entries nested inner := by
      intro nested inner inside
      obtain ⟨k, held, -⟩ := inside.held
      exact absurd (h.symm.trans held) nofun
    rw [validate_of_absent h]
    cases hr : f.required with
    | true => exact .report (.missing h hr) leaf
    | false => exact .report (.optional h hr) leaf
  | some v =>
    cases ht : f.type.accepts v with
    | false =>
      rw [validate_of_mistyped h ht]
      exact .report (.mistyped h ht) fun nested inner inside =>
        absurd ((inside.pass h).1.symm.trans ht) nofun
    | true =>
      by_cases pass : AllPass f.constraints v
      · exact step_of_pass h ht pass
      · by_cases answered : ∀ c ∈ f.constraints, ∃ a, c.check v = .ok a
        · exact step_of_fails h ht answered pass
        · cases hc : checkAll f.constraints v with
          | ok messages => exact absurd (checkAll_eq_ok_iff.mp hc).1 answered
          -- the first constraint without an answer ends the validation
          | error e =>
            obtain ⟨c, mem, stuck⟩ := exists_checkAll_eq_error_iff.mp ⟨e, hc⟩
            rw [validate_of_stuck h ht hc]
            exact .stuck h ht mem stuck

/-- The ways to violations: a report of the field's own, or the fields inside it. -/
theorem validate_eq_ok {vs : List Violation} (h : f.validate entries path = .ok vs) :
    (f.Report entries path vs ∧ ∀ nested inner, ¬f.Inside entries nested inner) ∨
      ∃ nested inner, f.Inside entries nested inner ∧
        validateFields inner (path ++ [f.name]) nested = .ok vs := by
  have hs := f.step entries path
  generalize f.validate entries path = x at h hs
  cases hs with
  | report report leaf =>
    cases h
    exact .inl ⟨report, leaf⟩
  | inside inside => exact .inr ⟨_, _, inside, h⟩
  | stuck => cases h

/-- The ways to a failure: a constraint without an answer, or the fields inside. -/
theorem validate_eq_error {e : CheckFault} (h : f.validate entries path = .error e) :
    (∃ v, f.held? entries = some v ∧ f.type.accepts v = true ∧
        ∃ c ∈ f.constraints, c.Unanswerable v) ∨
      ∃ nested inner, f.Inside entries nested inner ∧
        validateFields inner (path ++ [f.name]) nested = .error e := by
  have hs := f.step entries path
  generalize f.validate entries path = x at h hs
  cases hs with
  | report => cases h
  | inside inside => exact .inr ⟨_, _, inside, h⟩
  | stuck held typed mem stuck => exact .inl ⟨_, held, typed, _, mem, stuck⟩

end Field

/-! ### Lists of fields -/

theorem validateFields_cons_eq_ok_iff {f : Field} {rest : List Field}
    {entries : List (Value × Value)} {path : List String} {vs : List Violation} :
    validateFields entries path (f :: rest) = .ok vs ↔
      ∃ first others, f.validate entries path = .ok first ∧
        validateFields entries path rest = .ok others ∧ vs = first ++ others := by
  simp only [validateFields, bind_eq_ok_iff, pure_eq_ok_iff, exists_and_left, eq_comm (a := vs)]

end DataContract
