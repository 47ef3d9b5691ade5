/-
What violations say of types.

A value of the declared type is never told to be of another: no violation says that a type was
expected and that the same was given (`Worded.not_mismatch`), whatever text is put for the type. A
type's name and a kind's name have no comma, so the two names can be told apart in the sentence.
`kinds_agree_with_names` puts this together with the kinds that accept a value. A member of an
enumeration is of a second kind besides, which may be any of texts, numbers, lists and maps
(`member_beyond_text_and_integer`).
-/
import DataContract.Proofs.Contract.Kinds
import DataContract.Proofs.Validation.Outcome
import DataContract.Proofs.Validation.Wording

namespace DataContract

/-- Two names without commas are read off a sentence with a comma between them. -/
theorem expected_got_inj {front expected got s t : String} (first : ',' ∉ expected.toList)
    (second : ',' ∉ got.toList)
    (same : front ++ expected ++ ", got " ++ got = front ++ s ++ ", got " ++ t) :
    expected = s ∧ got = t := by
  have letters := congrArg String.toList same
  simp only [String.toList_append, List.append_assoc, List.append_cancel_left_eq] at letters
  have comma : (", got ").toList = ',' :: " got ".toList := by decide
  have behind : ',' ∉ " got ".toList ++ got.toList := by simp [second]
  rw [comma, List.cons_append, List.cons_append, List.append_cons_inj_of_notMem first behind] at letters
  obtain ⟨before, -, after⟩ := letters
  exact ⟨String.toList_inj.mp before, String.toList_inj.mp (List.append_cancel_left after)⟩

/-- Texts without commas are told apart by the comma between them. -/
theorem eq_of_expected_got {front expected got s : String} (first : ',' ∉ expected.toList)
    (second : ',' ∉ got.toList)
    (same : front ++ expected ++ ", got " ++ got = front ++ s ++ ", got " ++ s) : expected = got := by
  obtain ⟨left, right⟩ := expected_got_inj first second same
  exact left.trans right.symm

/-- No violation of a field says that a type was expected and the same type given. -/
theorem Worded.not_mismatch {m : String} (h : Worded m) (s : String) :
    m ≠ "expected " ++ s ++ ", got " ++ s ∧
      m ≠ "invalid list item: expected " ++ s ++ ", got " ++ s := by
  have apart : ∀ {t : FieldType} {v : Value} {front : String}, t.accepts v = false →
      front ++ t.name ++ ", got " ++ v.kindName ≠ front ++ s ++ ", got " ++ s :=
    fun {t v front} other same => FieldType.name_ne_kindName other
      (eq_of_expected_got t.comma_not_mem_name v.comma_not_mem_kindName same)
  -- sentences of different kinds begin with different words
  constructor
  · intro same
    have letters := congrArg String.toList same
    cases h with
    | mistyped other => exact apart other same
    | missing => simp at letters
    | item => simp at letters
    | failing said => cases said <;> simp at letters
  · intro same
    have letters := congrArg String.toList same
    cases h with
    | item other => exact apart other same
    | missing => simp at letters
    | mistyped => simp at letters
    | failing said => cases said <;> simp at letters

/-- Every violation of a validation reads like one of a field, or is that of a contract that is not
found. -/
theorem worded_of_validate {o : Owner} {name data : Value} {r : ValidationResult}
    (h : (validate o name data).result = .ok r) :
    ∀ w ∈ r.violations, Worded w.error ∨ ∃ text, w.error = "contract " ++ text ++ " not found" := by
  obtain ⟨-, text, -, rfl⟩ | ⟨c, -, none, rfl⟩ | ⟨c, entries, vs, -, -, hv, rfl⟩ := validate_eq_ok h
  · exact List.forall_mem_singleton.mpr (.inr ⟨text, rfl⟩)
  · -- data that is no map is told so as a value of another type is
    have other : (FieldType.kind .map).accepts data = false := by
      refine Bool.eq_false_iff.mpr fun accepted => ?_
      obtain ⟨k, entries, rfl⟩ := exists_mapping_of_accepts accepted
      cases none
    exact List.forall_mem_singleton.mpr (.inl (.mistyped other))
  · intro w mem
    refine .inl (worded_of_validateFields c.fields hv w ?_)
    split at mem
    · cases mem
    · exact mem

/-- Kinds and their names agree.

* A value that is no member of an enumeration is accepted by the one kind that has its kind's name,
  and by none if it is `null` or `unknown`.
* A member is an atom, and else of the kind of the text, the number, the list or the map that it is
  besides, and of no other.
* A list of items of any type accepts the values that a list accepts.
* Two kinds accept one value only if it is a member, as an atom and as what it is besides.
* No violation of any validation says that a type was expected and the same type given. -/
theorem kinds_agree_with_names :
    (∀ v : Value, v.asMember? = none →
      (∀ k : FieldKind, k.accepts v = true ↔ k.name = v.kindName) ∧
      (∀ k l : FieldKind, k.accepts v = true → l.accepts v = true → k = l) ∧
      (v.kindName = "null" ∨ v.kindName = "unknown" → ∀ k : FieldKind, k.accepts v = false)) ∧
    (∀ (v : Value) (m : Member), v.asMember? = some m →
      v.kindName = "atom" ∧ FieldKind.atom.accepts v = true ∧
      ∀ k : FieldKind, k.accepts v = true ↔ k = .atom ∨ v.plainKind? = some k) ∧
    (∀ (item : FieldType) (v : Value),
      (FieldType.listOf item).accepts v = FieldKind.list.accepts v) ∧
    (∀ (v : Value) (k l : FieldKind), k.accepts v = true → l.accepts v = true → k ≠ l →
      ∃ m, v.asMember? = some m ∧
        (k = .atom ∧ v.plainKind? = some l ∨ l = .atom ∧ v.plainKind? = some k)) ∧
    ∀ (o : Owner) (name data : Value) (r : ValidationResult),
      (validate o name data).result = .ok r → ∀ w ∈ r.violations, ∀ s : String,
        w.error ≠ "expected " ++ s ++ ", got " ++ s ∧
          w.error ≠ "invalid list item: expected " ++ s ++ ", got " ++ s := by
  refine ⟨fun v single => ⟨fun k => FieldKind.accepts_iff_name single, fun k l first second => ?_,
    fun nameless k => ?_⟩, fun v m member => ⟨?_, ?_, fun k => FieldKind.accepts_member_iff member⟩,
    fun item v => rfl, fun v k l => FieldKind.related_of_accepts, fun o name data r h w mem s => ?_⟩
  · rw [FieldKind.accepts_iff_name single] at first second
    exact FieldKind.name_inj.mp (first.trans second.symm)
  · rw [Bool.eq_false_iff, Ne, FieldKind.accepts_iff_name single]
    obtain null | unknown := nameless
    · rw [null]
      cases k <;> decide
    · rw [unknown]
      cases k <;> decide
  · rw [Value.kindName, member, Option.isSome_some, if_pos rfl]
  · exact (FieldKind.accepts_member_iff member).mpr (.inl rfl)
  · obtain worded | ⟨text, unknown⟩ := worded_of_validate h w mem
    · exact worded.not_mismatch s
    · rw [unknown]
      constructor
      all_goals
        intro same
        have letters := congrArg String.toList same
        simp at letters

/-- A member of an enumeration whose members are doubles at the same time. -/
def halfRatio : Atom := ⟨"Ratio", "HALF", .double (.finite false 4503599627370496 1021), true⟩

/-- What a member is besides need not be a text or an integer: a member that is a double is an atom
and a float. -/
theorem member_beyond_text_and_integer :
    FieldKind.atom.accepts (.atom halfRatio) = true ∧
      FieldKind.float.accepts (.atom halfRatio) = true ∧
      ¬∀ (a : Atom) (k : FieldKind), k.accepts (.atom a) = true →
        k = .atom ∨ k = .string ∨ k = .integer := by
  refine ⟨rfl, rfl, fun only => ?_⟩
  have kinds := only halfRatio .float rfl
  exact absurd kinds (by decide)

/-- A note whose tags are texts. -/
def note : Contract :=
  ⟨"note", [⟨"tags", .listOf (.kind .string), true, [], none⟩]⟩

/-- An integer among the tags is told apart from a text, while the truth value is no integer. -/
theorem strayTag_told :
    (validate (.registry ⟨[("note", note)]⟩) (.text "note")
        (.map [(.text "tags", .list [.text "new", .int 7])])).result =
      .ok (.error [⟨"tags", "invalid list item: expected string, got integer", []⟩]) ∧
    (∀ s : String, "invalid list item: expected string, got integer" ≠
      "invalid list item: expected " ++ s ++ ", got " ++ s) ∧
    FieldKind.integer.accepts (.bool true) = false := by
  obtain ⟨plain, -, -, -, told⟩ := kinds_agree_with_names
  have run : (validate (.registry ⟨[("note", note)]⟩) (.text "note")
        (.map [(.text "tags", .list [.text "new", .int 7])])).result =
      .ok (.error [⟨"tags", "invalid list item: expected string, got integer", []⟩]) := by
    cbv
  refine ⟨run, fun s => (told _ _ _ _ run _ List.mem_cons_self s).2, ?_⟩
  rw [Bool.eq_false_iff, Ne, (plain (.bool true) rfl).1]
  decide

end DataContract
