/-
Validation decides conformance.

`Conforms` says, without the engine, when the entries of a map conform to a list of fields: field by
field, and inside the maps that have fields of their own. The engine finds no violation exactly in
such entries (`validateFields_eq_nil_iff`), so a validation that comes to an outcome is valid
exactly for data that conforms to the contract it finds (`valid_iff_conforms`).
-/
import DataContract.Proofs.Validation.Outcome
import DataContract.Proofs.Validation.Wording

namespace DataContract

open Constraint

/-- The entries of a map conform to a list of fields. -/
inductive Conforms : List Field → List (Value × Value) → Prop where
  | intro {fields : List Field} {entries : List (Value × Value)}
    (absent : ∀ f ∈ fields, f.held? entries = none → f.required = false)
    (type : ∀ f ∈ fields, ∀ v, f.held? entries = some v → f.type.accepts v = true)
    (constraints : ∀ f ∈ fields, ∀ v, f.held? entries = some v →
      ∀ c ∈ f.constraints, c.check v = .ok none)
    (nested : ∀ f ∈ fields, ∀ v inner nested, f.held? entries = some v → v.asEntries? = some inner →
      f.type = .kind .map → f.nested = some nested → Conforms nested inner)
    (items : ∀ f ∈ fields, ∀ v items item, f.held? entries = some v → v.asItems? = some items →
      f.type = .listOf item → ∀ x ∈ items, item.accepts x = true) :
    Conforms fields entries

/-- What a field asks of a value held under its name. -/
structure Field.Admits (f : Field) (v : Value) : Prop where
  type : f.type.accepts v = true
  constraints : AllPass f.constraints v
  nested : ∀ inner nested, v.asEntries? = some inner → f.type = .kind .map →
    f.nested = some nested → Conforms nested inner
  items : ∀ items item, v.asItems? = some items → f.type = .listOf item →
    ∀ x ∈ items, item.accepts x = true

/-- What a field asks of entries. -/
structure Field.Meets (f : Field) (entries : List (Value × Value)) : Prop where
  absent : f.held? entries = none → f.required = false
  present : ∀ v, f.held? entries = some v → f.Admits v

theorem conforms_iff {fields : List Field} {entries : List (Value × Value)} :
    Conforms fields entries ↔ ∀ f ∈ fields, f.Meets entries := by
  constructor
  · rintro ⟨absent, type, constraints, nested, items⟩ f mem
    exact ⟨absent f mem, fun v held => ⟨type f mem v held, constraints f mem v held,
      fun inner fields => nested f mem v inner fields held,
      fun xs item => items f mem v xs item held⟩⟩
  · intro each
    exact .intro (fun f mem => (each f mem).absent)
      (fun f mem v held => ((each f mem).present v held).type)
      (fun f mem v held => ((each f mem).present v held).constraints)
      (fun f mem v inner fields held => ((each f mem).present v held).nested inner fields)
      (fun f mem v xs item held => ((each f mem).present v held).items xs item)

theorem conforms_nil (entries : List (Value × Value)) : Conforms [] entries :=
  conforms_iff.mpr nofun

theorem conforms_cons_iff {f : Field} {rest : List Field} {entries : List (Value × Value)} :
    Conforms (f :: rest) entries ↔ f.Meets entries ∧ Conforms rest entries := by
  simp only [conforms_iff, List.forall_mem_cons]

namespace Field

variable {f : Field} {entries inner : List (Value × Value)} {nested : List Field}
  {path : List String} {own : List Violation}

theorem meets_of_absent (h : f.held? entries = none) : f.Meets entries ↔ f.required = false :=
  ⟨fun meets => meets.absent h, fun free => ⟨fun _ => free, fun v held => by simp [h] at held⟩⟩

theorem meets_of_held {v : Value} (h : f.held? entries = some v) :
    f.Meets entries ↔ f.Admits v := by
  refine ⟨fun meets => meets.present v h, fun admits => ⟨fun absent => by simp [h] at absent, ?_⟩⟩
  intro w held
  obtain rfl := Option.some.inj (h.symm.trans held)
  exact admits

/-- A map field with fields of its own is met if what is inside conforms to them. -/
theorem meets_of_inside (h : f.Inside entries nested inner) :
    f.Meets entries ↔ Conforms nested inner := by
  obtain ⟨k, held, pass⟩ := h.held
  rw [meets_of_held held]
  constructor
  · intro admits
    exact admits.nested inner nested rfl h.type h.fields
  · intro conforms
    refine ⟨(h.pass held).1, pass, fun inner' nested' hi _ hn => ?_, fun items item hi => ?_⟩
    · obtain rfl := Option.some.inj hi
      obtain rfl := Option.some.inj (h.fields.symm.trans hn)
      exact conforms
    · cases hi

/-- A field that the validation does not go into is met if it reports nothing. -/
theorem Report.eq_nil_iff (h : f.Report entries path own)
    (leaf : ∀ nested inner, ¬f.Inside entries nested inner) : own = [] ↔ f.Meets entries := by
  cases h with
  | optional absent free => simp [meets_of_absent absent, free]
  | missing absent needed => simp [meets_of_absent absent, needed, saying]
  | mistyped held other =>
    rw [meets_of_held held]
    refine ⟨fun h => by simp [saying] at h, fun admits => ?_⟩
    cases admits.type.symm.trans other
  | @failing v held typed answered fails =>
    rw [meets_of_held held]
    refine ⟨fun h => ?_, fun admits => absurd admits.constraints fails⟩
    have silent : f.constraints.filterMap (·.message? v) = [] := by simpa [saying] using h
    have hc := checkAll_eq_ok_iff.mpr ⟨answered, silent.symm⟩
    exact absurd (checkAll_eq_nil_iff.mp hc) fails
  | @items k items item held type pass =>
    rw [meets_of_held held, itemViolations, List.map_eq_nil_iff, List.filter_eq_nil_iff]
    simp only [Bool.not_eq_true', Bool.not_eq_false]
    constructor
    · intro typed
      refine ⟨by rw [type]; rfl, pass, fun inner nested hi => ?_, fun items' item' hi ht => ?_⟩
      · cases hi
      · obtain rfl := Option.some.inj hi
        obtain rfl := FieldType.listOf.inj (type.symm.trans ht)
        exact typed
    · intro admits
      exact admits.items items item rfl type
  | @sound v held typed pass plain =>
    rw [meets_of_held held]
    refine ⟨fun _ => ⟨typed, pass, ?_, fun _ item _ ht => absurd ht (plain item)⟩, fun _ => rfl⟩
    intro inner nested hi ht hn
    obtain ⟨k, es, rfl⟩ := exists_mapping_of_accepts (ht ▸ typed)
    -- a map that passes and has fields to go into would have been gone into
    exact absurd ⟨ht, hn, k, held, pass⟩ (leaf nested es)

end Field

/-- The engine finds nothing exactly in entries that conform to the fields. -/
theorem validateFields_eq_nil_iff (fields : List Field) :
    ∀ {entries : List (Value × Value)} {path : List String} {vs : List Violation},
      validateFields entries path fields = .ok vs → (vs = [] ↔ Conforms fields entries) := by
  induction fields using fieldsInduction with
  | nil =>
    intro entries path vs h
    rw [validateFields] at h
    cases h
    simp [conforms_nil]
  | cons f rest inside ih =>
    intro entries path vs h
    obtain ⟨first, others, hf, hr, rfl⟩ := validateFields_cons_eq_ok_iff.mp h
    rw [List.append_eq_nil_iff, conforms_cons_iff, ih hr]
    suffices first = [] ↔ f.Meets entries by rw [this]
    obtain ⟨report, leaf⟩ | ⟨nested, inner, go, hn⟩ := Field.validate_eq_ok hf
    · exact report.eq_nil_iff leaf
    · rw [inside nested go.fields hn, Field.meets_of_inside go]

/-! ### How the error of a violation begins -/

theorem Worded.head_ne {m : String} (h : Worded m) : m.toList.head? ≠ some 'c' := by
  cases h with
  | missing => decide
  | mistyped => simp
  | item => simp
  | failing said =>
    cases said with
    | format => decide
    | minLength => simp
    | maxLength => simp
    | min => simp
    | max => simp
    | oneOf => simp

/-- No violation of a field reads like that of a contract that is not found. -/
theorem head_of_validateFields (fields : List Field) {entries : List (Value × Value)}
    {path : List String} {vs : List Violation} (h : validateFields entries path fields = .ok vs) :
    ∀ w ∈ vs, w.error.toList.head? ≠ some 'c' :=
  fun w mem => (worded_of_validateFields fields h w mem).head_ne

/-! ### Outcomes -/

/-- A validation that comes to an outcome is valid exactly if the name stands for a contract and the
data is a map that conforms to it. Valid data is handed on with no violation. Otherwise there are
violations: that of the unknown contract alone exactly if the name stands for none, else that of
the root alone if the data is no map. -/
theorem valid_iff_conforms {o : Owner} {name data : Value} {r : ValidationResult}
    (h : (validate o name data).result = .ok r) :
    (r.valid = true ↔ ∃ c entries, o.find? name = some c ∧ data.asEntries? = some entries ∧
      Conforms c.fields entries) ∧
    (r.valid = true → r.violations = [] ∧ r.data = data) ∧
    (r.valid = false → r.violations ≠ []) ∧
    ((∃ text, name.display = .ok text ∧
      r.violations = [⟨contractField, "contract " ++ text ++ " not found", []⟩]) ↔
        o.find? name = none) ∧
    (∀ c, o.find? name = some c → data.asEntries? = none →
      r.violations = [⟨rootField, "expected map, got " ++ data.kindName, []⟩]) := by
  obtain ⟨hc, text, shown, rfl⟩ | ⟨c, hc, he, rfl⟩ | ⟨c, entries, vs, hc, he, hv, rfl⟩ :=
    validate_eq_ok h
  · simp [ValidationResult.error, hc, shown]
  · simp [ValidationResult.error, hc, he, rootField, contractField]
  · have conforms := validateFields_eq_nil_iff c.fields hv
    have heads := head_of_validateFields c.fields hv
    cases vs with
    | nil =>
      simp [ValidationResult.ok, hc, he, conforms.mp rfl]
    | cons w ws =>
      -- the first violation tells: that of an unknown contract begins otherwise
      have broken : ¬Conforms c.fields entries := fun hn => absurd (conforms.mpr hn) nofun
      have other : ∀ text, w ≠ ⟨contractField, "contract " ++ text ++ " not found", []⟩ := by
        rintro text rfl
        exact heads _ List.mem_cons_self (by simp)
      simp [ValidationResult.error, hc, he, broken, other]

/-- Customers with a name, an address that has a zip code, and tags. -/
def customer : Contract :=
  ⟨"customer", [⟨"name", .kind .string, true, [], none⟩,
    ⟨"address", .kind .map, false, [],
      some [⟨"zip", .kind .string, true, [.oneOf [.text "1010", .text "1020"]], none⟩]⟩,
    ⟨"tags", .listOf (.kind .string), false, [], none⟩]⟩

/-- A customer whose zip code is a number. -/
def numberedZip : List (Value × Value) :=
  [(.text "name", .text "Ada"), (.text "address", .map [(.text "zip", .int 1010)]),
    (.text "tags", .list [.text "new"])]

theorem numberedZip_validate :
    (validate (.registry ⟨[("customer", customer)]⟩) (.text "customer") (.map numberedZip)).result =
      .ok (.error [⟨"zip", "expected string, got integer", ["address"]⟩]) := by
  cbv

theorem not_conforms_numberedZip :
    (validate (.registry ⟨[("customer", customer)]⟩) (.text "customer") (.map numberedZip)).result =
        .ok (.error [⟨"zip", "expected string, got integer", ["address"]⟩]) ∧
      ¬Conforms customer.fields numberedZip := by
  refine ⟨numberedZip_validate, fun conforms => ?_⟩
  have valid := (valid_iff_conforms numberedZip_validate).1.mpr
    ⟨customer, numberedZip, by cbv, rfl, conforms⟩
  cases valid

end DataContract
