/-
When what is wrong with a document can be reported.

A line of the report shows the way to a fault and what the fault reads. The way can be shown unless
a key on it is no text, no integer and not null, or is an integer with too many digits
(`DocumentStep.Unwritable`); what a fault reads shows the values that the broken rule is about
(`FormatRule.values`), and no such integer may stand in them. The check of a document finds nothing,
or reports every fault, or fails because a fault cannot be written (`FormatFault.Unwritable`):
`check_of_sound`, `check_of_writable`, `check_of_unwritable`.
-/
import DataContract.Definition.Format
import DataContract.Proofs.Value.Written

namespace DataContract

/-! ### The way to a fault -/

/-- A step that cannot be shown on the way to a fault. -/
inductive DocumentStep.Unwritable : DocumentStep → Prop where
  /-- The key says something, and is no text and no integer, truth values counting as integers. -/
  | type {k : Value} (given : k ≠ .null) (noText : k.asText? = none)
    (noInteger : ∀ n, k.comparable? ≠ some (.int n)) : Unwritable (.key k)
  | integer {k : Value} {n : Int} (noText : k.asText? = none)
    (integer : k.comparable? = some (.int n)) (long : IsOverlong n) : Unwritable (.key k)

namespace DocumentStep

theorem text_key (k : Value) : (key k).text =
    match k.asText?, k.comparable?, k with
    | some s, _, _ => .ok (if isPlain s.toList then "." ++ s else bracketed s.toList)
    | none, some (.int _), k =>
      match k.display with
      | .ok s => .ok ("[" ++ s ++ "]")
      | .error _ => .error .tooManyDigits
    | none, _, .null => .ok ""
    | none, _, .bytes _ => .error .bytesKey
    | none, _, k => .error (.keyType k.typeName) :=
  rfl

theorem text_of_integer {k : Value} {n : Int} (noText : k.asText? = none)
    (integer : k.comparable? = some (.int n)) :
    (∃ u, (key k).text = .error u) ↔ ∃ e, k.display = .error e := by
  simp only [text_key, noText, integer]
  cases k.display with
  | ok t => exact ⟨nofun, nofun⟩
  | error e => exact ⟨fun _ => ⟨e, rfl⟩, fun _ => ⟨_, rfl⟩⟩

theorem text_of_no_integer {k : Value} (given : k ≠ .null) (noText : k.asText? = none)
    (noInteger : ∀ n, k.comparable? ≠ some (.int n)) : ∃ u, (key k).text = .error u := by
  rw [text_key, noText]
  split
  · next h => cases h
  · next h => exact absurd h (noInteger _)
  · exact absurd rfl given
  · exact ⟨_, rfl⟩
  · exact ⟨_, rfl⟩

/-- A step can be shown unless it is unwritable. -/
theorem text_fails_iff {s : DocumentStep} : (∃ u, s.text = .error u) ↔ s.Unwritable := by
  cases s with
  | index n => exact ⟨nofun, nofun⟩
  | key k =>
    constructor
    · intro fails
      cases noText : k.asText? with
      | some t =>
        rw [text_key, noText] at fails
        obtain ⟨_, ⟨⟩⟩ := fails
      | none =>
        have given : k ≠ .null := by
          rintro rfl
          obtain ⟨_, ⟨⟩⟩ := fails
        by_cases integer : ∃ n, k.comparable? = some (.int n)
        · obtain ⟨n, integer⟩ := integer
          obtain ⟨e, shown⟩ := (text_of_integer noText integer).mp fails
          exact .integer noText integer ((Value.display_eq_error_iff_of_integer integer).mp shown)
        · exact .type given noText (not_exists.mp integer)
    · intro h
      cases h with
      | type given noText noInteger => exact text_of_no_integer given noText noInteger
      | integer noText integer long =>
        exact (text_of_integer noText integer).mpr
          ⟨⟨⟩, (Value.display_eq_error_iff_of_integer integer).mpr long⟩

end DocumentStep

/-! ### What a fault reads -/

namespace FormatRule

/-- The values that a broken rule is about. -/
def values : FormatRule → List Value
  | .ofType v _ => [v]
  | .needs _ => []
  | .strayKeys keys => keys
  | .ofNoType v => [v]
  | .atLeastZero v => [v]
  | .notEmpty v => [v]
  | .singleEntry v => [v]

variable {write : Value → Except TooManyDigits String} {vs : List Value}

theorem texts_fail_iff :
    (∃ e, texts write vs = .error e) ↔ ∃ v ∈ vs, ∃ e, write v = .error e := by
  induction vs with
  | nil => exact ⟨nofun, nofun⟩
  | cons v rest ih => rw [texts, both_fail_iff, ih, List.exists_mem_cons_iff]

theorem length_texts {shown : List String} (h : texts write vs = .ok shown) :
    shown.length = vs.length := by
  induction vs generalizing shown with
  | nil =>
    cases h
    rfl
  | cons v rest ih =>
    simp only [texts, bind_eq_ok_iff, pure_eq_ok_iff] at h
    obtain ⟨first, -, others, ho, rfl⟩ := h
    rw [List.length_cons, List.length_cons, ih ho]

theorem perm_sortedByText {sorted : List Value} (h : sortedByText vs = .ok sorted) :
    sorted.Perm vs := by
  simp only [sortedByText, bind_eq_ok_iff, pure_eq_ok_iff] at h
  obtain ⟨keys, hk, rfl⟩ := h
  -- there is a text for each value, so the pairs lose none of them
  have whole : (keys.zip vs).map (·.2) = vs :=
    List.map_snd_zip (length_texts hk).ge
  exact ((List.mergeSort_perm _ _).map _).trans (.of_eq whole)

theorem quoted_fails_iff {v : Value} : (∃ e, v.quoted = .error e) ↔ v.Overlong :=
  ⟨fun ⟨e, h⟩ => (Value.quoted_eq_error_iff e v).mp h,
    fun long => ⟨⟨⟩, (Value.quoted_eq_error_iff _ v).mpr long⟩⟩

theorem about_fails_iff {v : Value} {said : String} :
    (∃ e, about v said = .error e) ↔ v.Overlong := by
  rw [← quoted_fails_iff]
  simp only [about, bind_eq_error_iff, pure_ne_error, and_false, exists_false, or_false]

theorem message_strayKeys_fails_iff {keys : List Value} :
    (∃ e, (strayKeys keys).message = .error e) ↔ ∃ v ∈ keys, v.Overlong := by
  simp only [message, bind_eq_error_iff, pure_ne_error, and_false, exists_false, or_false]
  constructor
  · rintro ⟨e, h | ⟨sorted, hs, h⟩⟩
    · -- a key that has no text to be sorted by cannot be quoted either
      simp only [sortedByText, bind_eq_error_iff, pure_ne_error, and_false, exists_false,
        or_false] at h
      obtain ⟨v, mem, _, shown⟩ := texts_fail_iff.mp ⟨e, h⟩
      exact ⟨v, mem, Value.overlong_of_display shown⟩
    · obtain ⟨v, mem, written⟩ := texts_fail_iff.mp ⟨e, h⟩
      exact ⟨v, (perm_sortedByText hs).mem_iff.mp mem, quoted_fails_iff.mp written⟩
  · rintro ⟨v, mem, long⟩
    cases hs : sortedByText keys with
    | error e => exact ⟨e, .inl rfl⟩
    | ok sorted =>
      have mem' := (perm_sortedByText hs).mem_iff.mpr mem
      obtain ⟨e, h⟩ := texts_fail_iff.mpr ⟨v, mem', quoted_fails_iff.mpr long⟩
      exact ⟨e, .inr ⟨sorted, rfl, h⟩⟩

/-- What a broken rule reads can be written unless an integer in a value it is about is too long. -/
theorem message_fails_iff {rule : FormatRule} :
    (∃ e, rule.message = .error e) ↔ ∃ v ∈ rule.values, v.Overlong := by
  cases rule with
  | needs key => exact ⟨nofun, nofun⟩
  | strayKeys keys => exact message_strayKeys_fails_iff
  | _ => simp only [message, values, about_fails_iff, List.mem_singleton, exists_eq_left]

end FormatRule

/-! ### Faults -/

namespace FormatFault

/-- A fault that cannot be written: a step on the way to it cannot be shown, or an integer with too
many digits stands in what it is about. -/
def Unwritable (f : FormatFault) : Prop :=
  (∃ s ∈ f.path, s.Unwritable) ∨ ∃ v ∈ f.rule.values, v.Overlong

theorem pathText_fails_iff {path : List DocumentStep} :
    (∃ u, pathText path = .error u) ↔ ∃ s ∈ path, s.Unwritable := by
  induction path with
  | nil => exact ⟨nofun, nofun⟩
  | cons s rest ih =>
    rw [pathText, both_fail_iff, ih, DocumentStep.text_fails_iff, List.exists_mem_cons_iff]

end FormatFault

namespace Definition

variable {fs : List FormatFault} {document : Value} {source : String}

theorem faultTexts_fail_iff :
    (∃ u, faultTexts fs = .error u) ↔ ∃ f ∈ fs, ∃ v ∈ f.rule.values, v.Overlong := by
  induction fs with
  | nil => exact ⟨nofun, nofun⟩
  | cons f rest ih =>
    rw [List.exists_mem_cons_iff, ← ih, ← FormatRule.message_fails_iff, faultTexts]
    cases hm : f.rule.message with
    | error e => exact ⟨fun _ => .inl ⟨e, rfl⟩, fun _ => ⟨_, rfl⟩⟩
    | ok first =>
      simp only [bind_eq_error_iff, pure_ne_error, and_false, exists_false, or_false, false_or,
        reduceCtorEq]

theorem faultPaths_fail_iff :
    (∃ u, faultPaths fs = .error u) ↔ ∃ f ∈ fs, ∃ s ∈ f.path, s.Unwritable := by
  induction fs with
  | nil => exact ⟨nofun, nofun⟩
  | cons f rest ih =>
    rw [faultPaths, both_fail_iff, ih, FormatFault.pathText_fails_iff, List.exists_mem_cons_iff]

theorem length_faultTexts {shown : List String} (h : faultTexts fs = .ok shown) :
    shown.length = fs.length := by
  induction fs generalizing shown with
  | nil =>
    cases h
    rfl
  | cons f rest ih =>
    rw [faultTexts] at h
    split at h
    · cases h
    · simp only [bind_eq_ok_iff, pure_eq_ok_iff] at h
      obtain ⟨others, ho, rfl⟩ := h
      rw [List.length_cons, List.length_cons, ih ho]

theorem length_faultPaths {shown : List String} (h : faultPaths fs = .ok shown) :
    shown.length = fs.length := by
  induction fs generalizing shown with
  | nil =>
    cases h
    rfl
  | cons f rest ih =>
    simp only [faultPaths, bind_eq_ok_iff, pure_eq_ok_iff] at h
    obtain ⟨first, -, others, ho, rfl⟩ := h
    rw [List.length_cons, List.length_cons, ih ho]

/-- The report has a line for each fault. -/
theorem length_lines {shown : List String} (h : lines fs = .ok shown) :
    shown.length = fs.length := by
  simp only [lines, bind_eq_ok_iff, pure_eq_ok_iff] at h
  obtain ⟨texts, ht, paths, hp, rfl⟩ := h
  rw [List.length_map, List.length_mergeSort, List.length_zip, length_faultTexts ht,
    length_faultPaths hp, Nat.min_self]

theorem lines_fail_iff : (∃ u, lines fs = .error u) ↔ ∃ f ∈ fs, f.Unwritable := by
  rw [lines, both_fail_iff, faultTexts_fail_iff, faultPaths_fail_iff, Or.comm]
  simp only [FormatFault.Unwritable, and_or_left, exists_or]

theorem check_of_lines {errors : List String} (h : lines (faults document) = .ok errors) :
    check document source =
      .ok (if errors.isEmpty then none else some ⟨source, errors, none⟩) := by
  rw [check, h]
  rfl

/-- The check finds nothing wrong with a document that has no faults. -/
theorem check_of_sound (sound : faults document = []) : check document source = .ok none := by
  cases hl : lines (faults document) with
  | error u =>
    obtain ⟨f, mem, -⟩ := lines_fail_iff.mp ⟨u, hl⟩
    rw [sound] at mem
    cases mem
  | ok errors =>
    have nothing : errors = [] := List.length_eq_zero_iff.mp (by rw [length_lines hl, sound]; rfl)
    rw [check_of_lines hl, nothing]
    rfl

/-- It reports the faults of another, each in a line, if all of them can be written. -/
theorem check_of_writable (unsound : faults document ≠ [])
    (writable : ¬∃ f ∈ faults document, f.Unwritable) :
    ∃ m, check document source = .ok (some m) ∧ m.source = source ∧
      m.errors.length = (faults document).length := by
  cases hl : lines (faults document) with
  | error u => exact absurd (lines_fail_iff.mp ⟨u, hl⟩) writable
  | ok errors =>
    have count := length_lines hl
    have more : ¬errors.isEmpty := by
      rw [List.isEmpty_iff_length_eq_zero, count, List.length_eq_zero_iff]
      exact unsound
    exact ⟨⟨source, errors, none⟩, by rw [check_of_lines hl, if_neg more], rfl, count⟩

/-- It fails otherwise. -/
theorem check_of_unwritable (h : ∃ f ∈ faults document, f.Unwritable) :
    ∃ u, check document source = .error u := by
  obtain ⟨u, hl⟩ := lines_fail_iff.mpr h
  rw [check, hl]
  exact ⟨u, rfl⟩

end Definition

end DataContract
