/-
Constraints that a declaration warns of.

A constraint on texts or on numbers alone is reported as one without effect
(`Field.inapplicable`) where the field's type is another. Whatever value of that type comes, it
passes such a constraint (`check_of_inapplicable`), so the validation of the field is that of the
field without it (`reported_constraint_passes`).

The exception are members of enumerations that are at the same time a text or a number
(`Value.Twofold`): they belong to fields of members and are still checked as what else they are
(`pacedMember_fails`).
-/
import DataContract.Declaration.Basic
import DataContract.Proofs.Validation.Report

namespace DataContract

/-- A value is a member of an enumeration and at the same time the text or number assigned to it. -/
def Value.Twofold (v : Value) : Prop :=
  ∃ a, v = .atom a ∧ a.isValue = true

namespace FieldType

variable {t : FieldType} {v : Value}

/-- Values of a type other than that of texts are no texts. -/
theorem asText?_of_accepts (accepted : t.accepts v = true) (other : t ≠ .kind .string)
    (single : t = .kind .atom → ¬v.Twofold) : v.asText? = none := by
  cases t with
  | listOf item =>
    obtain ⟨k, items, rfl⟩ := exists_sequence_of_accepts accepted
    rfl
  | kind k =>
    cases v with
    | text s => cases k <;> simp_all [accepts, FieldKind.accepts, Value.asMember?]
    | atom a =>
      obtain ⟨family, name, value, isValue⟩ := a
      cases value with
      | number n => rfl
      | double x => rfl
      -- only a field of members takes a member with a text, and then it is no text itself
      | text s =>
        cases isValue with
        | false => rfl
        | true => cases k <;> simp_all [accepts, FieldKind.accepts, Value.Twofold]
    | _ => rfl

/-- Values of a type other than those of numbers are no numbers. -/
theorem asNumber?_of_accepts (accepted : t.accepts v = true) (integer : t ≠ .kind .integer)
    (float : t ≠ .kind .float) (single : t = .kind .atom → ¬v.Twofold) :
    v.asNumber? = none := by
  cases t with
  | listOf item =>
    obtain ⟨k, items, rfl⟩ := exists_sequence_of_accepts accepted
    rfl
  | kind k =>
    cases v with
    | int n => cases k <;> simp_all [accepts, FieldKind.accepts, Value.asText?, Value.asMember?]
    | float x => cases k <;> simp_all [accepts, FieldKind.accepts, Value.asText?, Value.asMember?]
    | atom a =>
      obtain ⟨family, name, value, isValue⟩ := a
      cases value with
      | text s => rfl
      | number n | double x =>
        cases isValue with
        | false => rfl
        | true => cases k <;> simp_all [accepts, FieldKind.accepts, Value.asText?, Value.Twofold]
    | _ => rfl

end FieldType

namespace Constraint

variable {c d : Constraint} {t : FieldType} {v : Value}

theorem check_of_not_text (acts : c.kind.actsOnText = true) (other : v.asText? = none) :
    c.check v = .ok none := by
  cases c with
  | format p => simp only [check, other]
  | minLength n => simp only [check, other]
  | maxLength n => simp only [check, other]
  | min b | max b | oneOf values => cases acts

theorem check_of_not_number (acts : c.kind.actsOnNumbers = true) (other : v.asNumber? = none) :
    c.check v = .ok none := by
  cases c with
  | min b => simp only [check, other]
  | max b => simp only [check, other]
  | format p | minLength n | maxLength n | oneOf values => cases acts

/-- A constraint that cannot act on values of a type lets them pass. -/
theorem check_of_inapplicable (idle : inapplicable t c = true) (accepted : t.accepts v = true)
    (single : t = .kind .atom → ¬v.Twofold) : c.check v = .ok none := by
  rw [inapplicable] at idle
  split at idle
  · rename_i acts
    have other : t ≠ .kind .string := by simpa using idle
    exact check_of_not_text acts (FieldType.asText?_of_accepts accepted other single)
  · split at idle
    · rename_i acts
      obtain ⟨integer, float⟩ : t ≠ .kind .integer ∧ t ≠ .kind .float := by simpa using idle
      exact check_of_not_number acts
        (FieldType.asNumber?_of_accepts accepted integer float single)
    · cases idle

/-- Whether a constraint can act on a type is a matter of its kind. -/
theorem inapplicable_of_kind (same : c.kind = d.kind) (idle : inapplicable t c = true) :
    inapplicable t d = true := by
  rw [inapplicable, ← same]
  exact idle

/-- Constraints that a value passes can be left out. -/
theorem checkAll_filter {constraints : List Constraint} {keep : Constraint → Bool}
    (silent : ∀ c ∈ constraints, keep c = false → c.check v = .ok none) :
    checkAll (constraints.filter keep) v = checkAll constraints v := by
  induction constraints with
  | nil => rfl
  | cons c rest ih =>
    have others := ih fun d mem => silent d (List.mem_cons_of_mem c mem)
    cases kept : keep c with
    | true => rw [List.filter_cons_of_pos kept, checkAll, checkAll, others]
    | false =>
      have passed := silent c List.mem_cons_self kept
      rw [List.filter_cons_of_neg (by simp [kept]), others, checkAll, passed]
      exact (bind_pure (checkAll rest v)).symm

end Constraint

namespace Field

variable {f : Field} {c : Constraint}

/-- The field without the constraints that are reported to have no effect on it. -/
def effective (f : Field) : Field :=
  { f with constraints := f.constraints.filter fun c => !Constraint.inapplicable f.type c }

theorem inapplicable_of_reported (reported : c.kind ∈ f.inapplicable) :
    Constraint.inapplicable f.type c = true := by
  obtain ⟨d, mem, same⟩ := List.mem_map.mp reported
  exact Constraint.inapplicable_of_kind same (List.mem_filter.mp mem).2

/-- A field with other constraints that say the same of a value is validated alike. -/
theorem validate_of_checkAll {entries : List (Value × Value)} {path : List String} {v : Value}
    {constraints : List Constraint} (held : f.held? entries = some v)
    (same : Constraint.checkAll constraints v = Constraint.checkAll f.constraints v) :
    Field.validate entries path { f with constraints := constraints } =
      f.validate entries path := by
  obtain ⟨name, type, required, own, nested⟩ := f
  simp only [held?] at held same
  simp only [Field.validate, held, same]

end Field

/-- A constraint that is reported to have no effect on a field lets every value of the field's type
pass, unless the value is a member and at the same time a text or a number. So the field is
validated as it would be without such constraints. -/
theorem reported_constraint_passes {f : Field} {v : Value} (accepted : f.type.accepts v = true)
    (single : f.type = .kind .atom → ¬v.Twofold) :
    (∀ c : Constraint, c.kind ∈ f.inapplicable → c.check v = .ok none) ∧
      ∀ entries path, f.held? entries = some v →
        f.effective.validate entries path = f.validate entries path := by
  refine ⟨fun c reported => ?_, fun entries path held => ?_⟩
  · exact Constraint.check_of_inapplicable (Field.inapplicable_of_reported reported) accepted single
  · refine Field.validate_of_checkAll held (Constraint.checkAll_filter fun c _ dropped => ?_)
    exact Constraint.check_of_inapplicable (by simpa using dropped) accepted single

/-- A member that is at the same time the number one. -/
def lowLevel : Value := .atom ⟨"Level", "LOW", .number 1, true⟩

/-- A member that is a number counts as an integer too, and passes whatever is asked of texts. -/
theorem lowLevel_passes :
    (Constraint.minLength 3).check lowLevel = .ok none ∧
      ∀ path, Field.validate [(.text "level", lowLevel)] path
          ⟨"level", .kind .integer, true, [], none⟩ =
        Field.validate [(.text "level", lowLevel)] path
          ⟨"level", .kind .integer, true, [.minLength 3], none⟩ := by
  have passes := reported_constraint_passes (v := lowLevel)
    (f := ⟨"level", .kind .integer, true, [.minLength 3], none⟩) (by decide) nofun
  exact ⟨passes.1 (.minLength 3) (by decide), fun path => passes.2 _ path (by cbv)⟩

/-- The pattern of the one letter `w`. -/
def letterPattern : Constraint :=
  .format ⟨.text "w", ⟨false, false, false, false, false, ⟨false, false, true⟩⟩, .literal 119⟩

/-- A field of members with that pattern. -/
def pacedMember : Field :=
  ⟨"mode", .kind .atom, true, [letterPattern], none⟩

/-- The pattern of such a field is said to have no effect, and yet a member that is a text fails
it. -/
theorem pacedMember_fails :
    (∃ warned, Field.declared (.text "mode") (.text "atom") true none
        [(.text "format", .text "w")] = ⟨.ok pacedMember, [warned]⟩ ∧
      warned.message = "constraint format has no effect on atom field mode") ∧
    letterPattern.kind ∈ pacedMember.inapplicable ∧
    ∃ v, pacedMember.type.accepts v = true ∧ ¬letterPattern.check v = .ok none ∧
      pacedMember.validate [(.text "mode", v)] [] =
        .ok [⟨"mode", "does not match format", []⟩] := by
  refine ⟨⟨_, by cbv, rfl⟩, by decide, .atom ⟨"Mode", "FAST", .text "fast", true⟩, by decide, ?_,
    by cbv⟩
  have answer : letterPattern.check (.atom ⟨"Mode", "FAST", .text "fast", true⟩) =
      .ok (some "does not match format") := by
    cbv
  rw [answer]
  intro passed
  cases passed

end DataContract
