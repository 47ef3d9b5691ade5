/-
A stricter contract admits no other data.

A contract is made stricter by a field more, by a field that is required now, by a constraint more, or
by fields for the map of a field that had none, at any depth (`Tightens`, `Field.Stricter`). Whatever
conforms to the stricter fields conforms to those before: each step keeps this for one field
(`Field.Stricter.meets`), so for a list of fields (`Tightens.conforms`), and so do many steps.

Nothing of the kind holds of violations. A new violation of a field hides those inside it, so that a
stricter contract may report fewer (`tags_tightened`).
-/
import DataContract.Proofs.Validation.Conformance
import DataContract.Proofs.Validation.Totality

namespace DataContract

open Constraint

variable {f f' : Field} {fields fields' nested nested' : List Field} {entries : List (Value × Value)}

/-! ### Data that conforms is validated -/

/-- Where entries conform to fields no constraint fails to answer. -/
theorem Conforms.not_stuck (h : Conforms fields entries) : ¬Stuck fields entries := by
  intro stuck
  induction stuck with
  | here mem held _ constraint unanswerable =>
    -- a constraint that admits the value has answered for it
    have admits := (conforms_iff.mp h _ mem).present _ held
    obtain ⟨e, fails⟩ := unanswerable.check_eq_error
    exact absurd ((admits.constraints _ constraint).symm.trans fails) nofun
  | inside mem go _ ih =>
    have meets := conforms_iff.mp h _ mem
    exact ih ((Field.meets_of_inside go).mp meets)

/-- The validation finds nothing exactly in entries that conform to the fields. -/
theorem validateFields_eq_ok_nil_iff {path : List String} :
    validateFields entries path fields = .ok [] ↔ Conforms fields entries := by
  constructor
  · intro nothing
    exact (validateFields_eq_nil_iff fields nothing).mp rfl
  · intro conforms
    rcases hv : validateFields entries path fields with e | vs
    · exact absurd ((validateFields_fails_iff fields).mp ⟨e, hv⟩) conforms.not_stuck
    · rw [(validateFields_eq_nil_iff fields hv).mpr conforms]

/-! ### Stricter fields -/

/-- A field is made stricter by itself. -/
inductive Field.Stricter (f : Field) : Field → Prop where
  | required : Stricter f { f with required := true }
  /-- One constraint more, anywhere among the others. -/
  | constraint (before after : List Constraint) (c : Constraint)
    (constraints : f.constraints = before ++ after) :
    Stricter f { f with constraints := before ++ c :: after }
  /-- Fields for the map of a field that had none. -/
  | shaped (fields : List Field) (type : f.type = .kind .map) (bare : f.nested = none) :
    Stricter f { f with nested := some fields }

/-- A list of fields is made stricter, in one place and at any depth. -/
inductive Tightens : List Field → List Field → Prop where
  | added (before after : List Field) (f : Field) : Tightens (before ++ after) (before ++ f :: after)
  | field (before after : List Field) {f f' : Field} (stricter : f.Stricter f') :
    Tightens (before ++ f :: after) (before ++ f' :: after)
  | inside (before after : List Field) {f : Field} {nested nested' : List Field}
    (fields : f.nested = some nested) (deeper : Tightens nested nested') :
    Tightens (before ++ f :: after) (before ++ { f with nested := some nested' } :: after)

/-- What a stricter field asks, the field before asks too. -/
theorem Field.Stricter.meets (h : f.Stricter f') (meets : f'.Meets entries) : f.Meets entries := by
  obtain ⟨absent, present⟩ := meets
  cases h with
  | required =>
    refine ⟨fun lacking => absurd (absent lacking) nofun, fun v held => ?_⟩
    obtain ⟨type, constraints, nested, items⟩ := present v held
    exact ⟨type, constraints, nested, items⟩
  | @constraint before after c all =>
    refine ⟨absent, fun v held => ?_⟩
    obtain ⟨type, constraints, nested, items⟩ := present v held
    refine ⟨type, fun d mem => constraints d ?_, nested, items⟩
    rw [all] at mem
    exact List.mem_append.mpr ((List.mem_append.mp mem).imp_right (List.mem_cons_of_mem c))
  | shaped fields _ bare =>
    refine ⟨absent, fun v held => ?_⟩
    -- what the new fields ask of the map is more than was asked, so nothing of it is needed
    obtain ⟨type, constraints, -, items⟩ := present v held
    exact ⟨type, constraints, fun _ _ _ _ given => absurd (bare.symm.trans given) nofun, items⟩

/-- A field asks no more if the fields inside it do not. -/
theorem Field.meets_of_nested (inside : f.nested = some nested)
    (fewer : ∀ inner, Conforms nested' inner → Conforms nested inner)
    (meets : { f with nested := some nested' }.Meets entries) : f.Meets entries := by
  refine ⟨meets.absent, fun v held => ?_⟩
  obtain ⟨type, constraints, given, items⟩ := meets.present v held
  refine ⟨type, constraints, fun inner fields map kind hf => ?_, items⟩
  obtain rfl := Option.some.inj (inside.symm.trans hf)
  exact fewer inner (given inner nested' map kind rfl)

theorem conforms_append_iff {before after : List Field} :
    Conforms (before ++ after) entries ↔ Conforms before entries ∧ Conforms after entries := by
  simp only [conforms_iff, List.forall_mem_append]

/-- Entries that conform to stricter fields conform to those before. -/
theorem Tightens.conforms (h : Tightens fields fields') :
    ∀ {entries : List (Value × Value)}, Conforms fields' entries → Conforms fields entries := by
  induction h with
  | added before after f =>
    intro entries conforms
    obtain ⟨first, others⟩ := conforms_append_iff.mp conforms
    exact conforms_append_iff.mpr ⟨first, (conforms_cons_iff.mp others).2⟩
  | field before after stricter =>
    intro entries conforms
    obtain ⟨first, others⟩ := conforms_append_iff.mp conforms
    obtain ⟨meets, rest⟩ := conforms_cons_iff.mp others
    exact conforms_append_iff.mpr ⟨first, conforms_cons_iff.mpr ⟨stricter.meets meets, rest⟩⟩
  | inside before after inside _ ih =>
    intro entries conforms
    obtain ⟨first, others⟩ := conforms_append_iff.mp conforms
    obtain ⟨meets, rest⟩ := conforms_cons_iff.mp others
    have kept := Field.meets_of_nested inside (fun _ => ih) meets
    exact conforms_append_iff.mpr ⟨first, conforms_cons_iff.mpr ⟨kept, rest⟩⟩

theorem conforms_of_tightened (h : Relation.ReflTransGen Tightens fields fields')
    (conforms : Conforms fields' entries) : Conforms fields entries := by
  induction h with
  | refl => exact conforms
  | tail _ step ih => exact ih (step.conforms conforms)

/-! ### Outcomes -/

/-- However often a contract is made stricter, data that is valid under the stricter contract is valid
under the one before: its validation comes to an outcome, and that is valid. -/
theorem valid_of_tightened {o o' : Owner} {name name' data : Value} {c c' : Contract}
    {r' : ValidationResult} (found : o.find? name = some c) (found' : o'.find? name' = some c')
    (tightened : Relation.ReflTransGen Tightens c.fields c'.fields)
    (judged : (validate o' name' data).result = .ok r') (valid : r'.valid = true) :
    ∃ r, (validate o name data).result = .ok r ∧ r.valid = true := by
  rw [validate_of_known found'] at judged
  obtain ⟨entries, map, nothing⟩ := Contract.valid_iff.mp ⟨r', judged, valid⟩
  have conforms := conforms_of_tightened tightened (validateFields_eq_ok_nil_iff.mp nothing)
  rw [validate_of_known found]
  exact Contract.valid_iff.mpr ⟨entries, map, validateFields_eq_ok_nil_iff.mpr conforms⟩

/-- A box that may have tags, which are texts. -/
def taggedBox : Contract :=
  ⟨"box", [⟨"tags", .listOf (.kind .string), false, [], none⟩]⟩

/-- A box that must have a size, and an empty list of tags. -/
def untaggedBox : Contract :=
  ⟨"box", [⟨"size", .kind .integer, true, [], none⟩,
    ⟨"tags", .listOf (.kind .string), true, [.oneOf [.list []]], none⟩]⟩

theorem untaggedBox_tightened :
    Relation.ReflTransGen Tightens taggedBox.fields untaggedBox.fields := by
  have needed : Tightens taggedBox.fields [⟨"tags", .listOf (.kind .string), true, [], none⟩] :=
    .field [] [] .required
  have listed : Tightens [⟨"tags", .listOf (.kind .string), true, [], none⟩]
      [⟨"tags", .listOf (.kind .string), true, [.oneOf [.list []]], none⟩] :=
    .field [] [] (.constraint [] [] _ rfl)
  have sized : Tightens [⟨"tags", .listOf (.kind .string), true, [.oneOf [.list []]], none⟩]
      untaggedBox.fields :=
    .added [] _ _
  exact ((Relation.ReflTransGen.single needed).tail listed).tail sized

/-- A box without tags is valid under both. One with two numbers for tags has two violations, but a
single one under the stricter contract, which hides them. -/
theorem tags_tightened :
    Relation.ReflTransGen Tightens taggedBox.fields untaggedBox.fields ∧
      (∃ r, (validate (.registry ⟨[("box", taggedBox)]⟩) (.text "box")
        (.map [(.text "size", .int 1), (.text "tags", .list [])])).result = .ok r ∧ r.valid = true) ∧
      taggedBox.validate (.map [(.text "size", .int 1), (.text "tags", .list [.int 1, .int 2])]) =
        .ok (.error [⟨"tags", "invalid list item: expected string, got integer", []⟩,
          ⟨"tags", "invalid list item: expected string, got integer", []⟩]) ∧
      untaggedBox.validate (.map [(.text "size", .int 1), (.text "tags", .list [.int 1, .int 2])]) =
        .ok (.error [⟨"tags", "must be one of: []", []⟩]) := by
  have found : (Owner.registry ⟨[("box", taggedBox)]⟩).find? (.text "box") = some taggedBox := by cbv
  have found' : (Owner.registry ⟨[("box", untaggedBox)]⟩).find? (.text "box") = some untaggedBox := by
    cbv
  have judged : (validate (.registry ⟨[("box", untaggedBox)]⟩) (.text "box")
      (.map [(.text "size", .int 1), (.text "tags", .list [])])).result =
        .ok (.ok (.map [(.text "size", .int 1), (.text "tags", .list [])])) := by
    cbv
  exact ⟨untaggedBox_tightened,
    valid_of_tightened found found' untaggedBox_tightened judged rfl, by cbv, by cbv⟩

end DataContract
