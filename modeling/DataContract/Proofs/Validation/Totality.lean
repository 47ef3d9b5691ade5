/-
When a validation comes to an outcome.

A validation fails where it has to write a name that cannot be written, and where it meets a
constraint that cannot answer for the value before it (`Stuck`), at any depth. These are all cases
(`validation_fails_iff`). So a contract whose constraints are sturdy, which means that they answer
for every value, never fails (`Contract.validate_of_sturdy`).

Declarations do not keep the other constraints out: they take a pattern of bytes, and the validation
of a text under it fails (`bytesCode_fails`).
-/
import DataContract.Declaration.Basic
import DataContract.Proofs.Validation.Outcome

namespace DataContract

open Constraint

/-- The entries of a map hold, under a field or inside one, a value for which a constraint of that
field cannot answer. The validation gets there: the value has the field's type, and the maps above
pass their constraints. -/
inductive Stuck : List Field → List (Value × Value) → Prop where
  | here {fields : List Field} {entries : List (Value × Value)} {f : Field} {v : Value}
    {c : Constraint} (mem : f ∈ fields) (held : f.held? entries = some v)
    (typed : f.type.accepts v = true) (constraint : c ∈ f.constraints)
    (stuck : c.Unanswerable v) : Stuck fields entries
  | inside {fields nested : List Field} {entries inner : List (Value × Value)} {f : Field}
    (mem : f ∈ fields) (go : f.Inside entries nested inner) (stuck : Stuck nested inner) :
    Stuck fields entries

variable {f : Field} {fields rest nested : List Field} {entries inner : List (Value × Value)}
  {path : List String}

theorem not_stuck_nil : ¬Stuck [] entries := by
  intro h
  cases h with
  | here mem => exact absurd mem List.not_mem_nil
  | inside mem => exact absurd mem List.not_mem_nil

/-- A list of fields is stuck at its first field, or inside that field, or behind it. -/
theorem stuck_cons_iff : Stuck (f :: rest) entries ↔
    (∃ v, f.held? entries = some v ∧ f.type.accepts v = true ∧
      ∃ c ∈ f.constraints, c.Unanswerable v) ∨
    (∃ nested inner, f.Inside entries nested inner ∧ Stuck nested inner) ∨ Stuck rest entries := by
  constructor
  · intro h
    cases h with
    | here mem held typed constraint stuck =>
      rcases List.mem_cons.mp mem with rfl | mem
      · exact .inl ⟨_, held, typed, _, constraint, stuck⟩
      · exact .inr (.inr (.here mem held typed constraint stuck))
    | inside mem go stuck =>
      rcases List.mem_cons.mp mem with rfl | mem
      · exact .inr (.inl ⟨_, _, go, stuck⟩)
      · exact .inr (.inr (.inside mem go stuck))
  · rintro (⟨v, held, typed, c, constraint, stuck⟩ | ⟨nested, inner, go, stuck⟩ | stuck)
    · exact .here List.mem_cons_self held typed constraint stuck
    · exact .inside List.mem_cons_self go stuck
    · cases stuck with
      | here mem held typed constraint stuck =>
        exact .here (List.mem_cons_of_mem _ mem) held typed constraint stuck
      | inside mem go stuck => exact .inside (List.mem_cons_of_mem _ mem) go stuck

namespace Field

/-- The validation of one field fails at a constraint of it, or inside. -/
theorem validate_fails_iff : (∃ e, f.validate entries path = .error e) ↔
    (∃ v, f.held? entries = some v ∧ f.type.accepts v = true ∧
      ∃ c ∈ f.constraints, c.Unanswerable v) ∨
    ∃ nested inner, f.Inside entries nested inner ∧
      ∃ e, validateFields inner (path ++ [f.name]) nested = .error e := by
  constructor
  · rintro ⟨e, h⟩
    obtain stuck | ⟨nested, inner, go, hn⟩ := Field.validate_eq_error h
    · exact .inl stuck
    · exact .inr ⟨nested, inner, go, e, hn⟩
  · rintro (⟨v, held, typed, stuck⟩ | ⟨nested, inner, go, e, hn⟩)
    · obtain ⟨e, hc⟩ := exists_checkAll_eq_error_iff.mpr stuck
      exact ⟨e, validate_of_stuck held typed hc⟩
    · exact ⟨e, (validate_of_inside go).trans hn⟩

end Field

theorem validateFields_cons_fails_iff :
    (∃ e, validateFields entries path (f :: rest) = .error e) ↔
      (∃ e, f.validate entries path = .error e) ∨
        ∃ e, validateFields entries path rest = .error e := by
  simp only [validateFields, bind_eq_error_iff, pure_ne_error, and_false, exists_false, or_false]
  cases f.validate entries path with
  | ok first => simp
  | error e => simp

/-- The validation of fields fails exactly where it gets stuck. -/
theorem validateFields_fails_iff (fields : List Field) :
    ∀ {entries : List (Value × Value)} {path : List String},
      (∃ e, validateFields entries path fields = .error e) ↔ Stuck fields entries := by
  induction fields using fieldsInduction with
  | nil =>
    intro entries path
    simp [validateFields, not_stuck_nil]
  | cons f rest inside ih =>
    intro entries path
    rw [validateFields_cons_fails_iff, Field.validate_fails_iff, stuck_cons_iff, ih, or_assoc]
    -- inside the first field, both sides are the same by induction
    have deeper : (∃ nested inner, f.Inside entries nested inner ∧
        ∃ e, validateFields inner (path ++ [f.name]) nested = .error e) ↔
          ∃ nested inner, f.Inside entries nested inner ∧ Stuck nested inner :=
      exists_congr fun nested => exists_congr fun inner => and_congr_right fun go =>
        inside nested go.fields
    rw [deeper]

theorem unknownContract_fails_iff {name : Value} :
    (∃ e, unknownContract name = .error e) ↔ ∃ e, name.display = .error e := by
  rw [unknownContract]
  cases name.display with
  | ok text => simp [CheckFault.ofText, bind, Except.bind, pure, Except.pure]
  | error e => simp [CheckFault.ofText, bind, Except.bind]

/-! ### Constraints that answer for every value -/

/-- What a constraint is configured with lets it answer for every value. -/
def Constraint.Sturdy : Constraint → Prop
  | .format p => p.source.isText = true
  | .minLength n => ¬IsOverlong n
  | .maxLength n => ¬IsOverlong n
  | .min b => ∃ n, b = .number n ∧ ∀ m, n = .int m → ¬IsOverlong m
  | .max b => ∃ n, b = .number n ∧ ∀ m, n = .int m → ¬IsOverlong m
  | .oneOf values => ∀ w ∈ values, w.asMember? = none → ¬w.Overlong

theorem Constraint.Sturdy.answers {c : Constraint} {v : Value} (h : c.Sturdy) :
    ¬c.Unanswerable v := by
  intro stuck
  cases stuck with
  | bytesPattern bytes text => exact absurd (h.symm.trans bytes) nofun
  | minLength text short long => exact h long
  | maxLength text exceeding long => exact h long
  | unorderedMin other number =>
    obtain ⟨n, hn, -⟩ := h
    exact other n hn
  | unorderedMax other number =>
    obtain ⟨n, hn, -⟩ := h
    exact other n hn
  | min number below long =>
    obtain ⟨n, hn, fits⟩ := h
    cases hn
    exact fits _ rfl long
  | max number above long =>
    obtain ⟨n, hn, fits⟩ := h
    cases hn
    exact fits _ rfl long
  | oneOf other mem plain long => exact h _ mem plain long

/-- A constraint of one of the fields, or of a field inside one. -/
inductive Constraint.Occurs (c : Constraint) : List Field → Prop where
  | here {fields : List Field} {f : Field} (mem : f ∈ fields) (constraint : c ∈ f.constraints) :
    Occurs c fields
  | inside {fields nested : List Field} {f : Field} (mem : f ∈ fields)
    (deeper : f.nested = some nested) (occurs : Occurs c nested) : Occurs c fields

theorem not_stuck_of_sturdy (h : ∀ c : Constraint, c.Occurs fields → c.Sturdy) :
    ¬Stuck fields entries := by
  intro stuck
  induction stuck with
  | here mem _ _ constraint stuck => exact (h _ (.here mem constraint)).answers stuck
  | inside mem go _ ih => exact ih fun c occurs => h c (.inside mem go.fields occurs)

/-- A contract of sturdy constraints comes to an outcome for every data. -/
theorem Contract.validate_of_sturdy {c : Contract} (data : Value)
    (h : ∀ k : Constraint, k.Occurs c.fields → k.Sturdy) : ∃ r, c.validate data = .ok r := by
  cases he : data.asEntries? with
  | none => exact ⟨_, validate_of_not_map he⟩
  | some entries =>
    rw [validate_of_map he]
    cases hv : validateFields entries [] c.fields with
    | ok vs => exact ⟨_, rfl⟩
    | error e => exact absurd ((validateFields_fails_iff _).mp ⟨e, hv⟩) (not_stuck_of_sturdy h)

/-! ### Outcomes -/

/-- A validation fails exactly if the name is not found and cannot be written, or the contract that
it stands for gets stuck in the data. -/
theorem validation_fails_iff {o : Owner} {name data : Value} :
    (∃ e, (validate o name data).result = .error e) ↔
      (o.find? name = none ∧ ∃ e, name.display = .error e) ∨
      ∃ c entries, o.find? name = some c ∧ data.asEntries? = some entries ∧
        Stuck c.fields entries := by
  cases hc : o.find? name with
  | none => simp [validate_of_unknown hc, unknownContract_fails_iff]
  | some c =>
    rw [validate_of_known hc]
    cases he : data.asEntries? with
    | none => simp [Contract.validate_of_not_map he]
    | some entries =>
      have fails : (∃ e, c.validate data = .error e) ↔
          ∃ e, validateFields entries [] c.fields = .error e := by
        rw [Contract.validate_of_map he]
        cases validateFields entries [] c.fields <;> simp [Except.map]
      rw [fails, validateFields_fails_iff]
      simp

/-- A text under a pattern of bytes, the single `b`. -/
def bytesCode : Field :=
  ⟨"code", .kind .string, true, [.format ⟨.bytes [0x62], .off, .literal 0x62⟩], none⟩

/-- Declarations take a pattern of bytes, and the validation of a text under it comes to no
outcome. -/
theorem bytesCode_fails :
    (Field.declared (.text "code") (.text "string") true none
      [(.text "format", .bytes [0x62])]).result = .ok bytesCode ∧
    Contract.declared (.text "parcel") [bytesCode] = .ok ⟨"parcel", [bytesCode]⟩ ∧
    ¬∃ r, (validate (.registry ⟨[("parcel", ⟨"parcel", [bytesCode]⟩)]⟩) (.text "parcel")
      (.map [(.text "code", .text "a")])).result = .ok r := by
  have fails : (validate (.registry ⟨[("parcel", ⟨"parcel", [bytesCode]⟩)]⟩) (.text "parcel")
      (.map [(.text "code", .text "a")])).result = .error .bytesPattern := by
    cbv
  refine ⟨by cbv, by cbv, ?_⟩
  rintro ⟨r, h⟩
  cases fails.symm.trans h

end DataContract
