/-
Which values can be written.

Writing a value fails exactly if somewhere in it stands an integer with more digits than may be
written (`Value.Overlong`):

* `decimalText_eq_error_iff` — for integers;
* `Value.quoted_eq_error_iff` — for values as they would be written;
* `Value.configured_eq_error_iff` — for configured values, of which a member is written by name;
* `Value.overlong_of_display` — for the texts of values, of which some pass over integers.
-/
import DataContract.Value.Rendering
import DataContract.Proofs.Result

namespace DataContract

instance : Subsingleton TooManyDigits := ⟨fun ⟨⟩ ⟨⟩ => rfl⟩

/-- An integer has more digits than may be written. -/
def IsOverlong (n : Int) : Prop :=
  Nat.pow 10 digitLimit ≤ n.natAbs

theorem decimalText_eq_error_iff {n : Int} {e : TooManyDigits} :
    decimalText n = .error e ↔ IsOverlong n := by
  rw [decimalText, IsOverlong]
  split <;> rename_i h
  · exact ⟨nofun, fun long => absurd h (Nat.not_lt.mpr long)⟩
  · exact ⟨fun _ => Nat.not_lt.mp h, fun _ => rfl⟩

/-- An integer of one digit can be written. -/
theorem not_isOverlong_of_lt {n : Int} (small : n.natAbs < 10) : ¬IsOverlong n := by
  have more : 1 ≤ digitLimit := by decide
  rw [IsOverlong]
  generalize digitLimit = limit at more ⊢
  refine Nat.not_le.mpr (Nat.lt_of_lt_of_le small ?_)
  exact Nat.le_self_pow (by omega) 10

theorem not_isOverlong_zero : ¬IsOverlong 0 :=
  not_isOverlong_of_lt (by decide)

theorem decimalText_eq_ok {n : Int} (h : ¬IsOverlong n) : decimalText n = .ok (toString n) := by
  rw [decimalText, if_pos (Nat.not_le.mp h)]

theorem exists_decimalText {n : Int} (h : ¬IsOverlong n) : ∃ t, decimalText n = .ok t :=
  ⟨toString n, decimalText_eq_ok h⟩

/-- Somewhere in a value stands an integer with too many digits. -/
inductive Value.Overlong : Value → Prop where
  | int {n : Int} (long : IsOverlong n) : Overlong (.int n)
  | atom {family name : String} {n : Int} {isValue : Bool} (long : IsOverlong n) :
    Overlong (.atom ⟨family, name, .number n, isValue⟩)
  | item {k : SequenceKind} {items : List Value} {v : Value} (mem : v ∈ items)
    (long : v.Overlong) : Overlong (.sequence k items)
  | key {k : MappingKind} {entries : List (Value × Value)} {e : Value × Value} (mem : e ∈ entries)
    (long : e.1.Overlong) : Overlong (.mapping k entries)
  | entry {k : MappingKind} {entries : List (Value × Value)} {e : Value × Value}
    (mem : e ∈ entries) (long : e.2.Overlong) : Overlong (.mapping k entries)
  | member {items : List Value} {v : Value} (mem : v ∈ items) (long : v.Overlong) :
    Overlong (.set items)
  | field {model : String} {fields : List (String × Value)} {e : String × Value}
    (mem : e ∈ fields) (long : e.2.Overlong) : Overlong (.record model fields)

namespace AtomValue

theorem quoted_eq_error_iff {a : AtomValue} {e : TooManyDigits} :
    a.quoted = .error e ↔ ∃ n, a = .number n ∧ IsOverlong n := by
  cases a with
  | text s => simp [quoted]
  | number n => simp [quoted, decimalText_eq_error_iff]
  | double x => simp [quoted]

end AtomValue

namespace Value

theorem atom_quoted_eq_error_iff {a : Atom} {e : TooManyDigits} :
    a.quoted = .error e ↔ (Value.atom a).Overlong := by
  obtain ⟨family, name, value, isValue⟩ := a
  rw [Atom.quoted, bind_eq_error_iff, AtomValue.quoted_eq_error_iff]
  constructor
  · rintro (⟨n, hv, long⟩ | ⟨_, _, h⟩)
    · simp only at hv
      subst hv
      exact .atom long
    · exact absurd h pure_ne_error
  · intro h
    cases h with
    | atom long => exact .inl ⟨_, rfl, long⟩

mutual

/-- Writing a value fails exactly if an integer in it has too many digits. -/
theorem quoted_eq_error_iff (e : TooManyDigits) : ∀ v : Value, v.quoted = .error e ↔ v.Overlong
  | .sequence k items => by
    rw [quoted, bind_eq_error_iff, quotedItems_eq_error_iff e items]
    constructor
    · rintro (⟨v, mem, long⟩ | ⟨_, _, h⟩)
      · exact .item mem long
      · exact absurd h pure_ne_error
    · intro h
      cases h with
      | item mem long => exact .inl ⟨_, mem, long⟩
  | .mapping k entries => by
    rw [quoted, bind_eq_error_iff, quotedEntries_eq_error_iff e entries]
    constructor
    · rintro (⟨x, mem, long | long⟩ | ⟨_, _, h⟩)
      · exact .key mem long
      · exact .entry mem long
      · exact absurd h pure_ne_error
    · intro h
      cases h with
      | key mem long => exact .inl ⟨_, mem, .inl long⟩
      | entry mem long => exact .inl ⟨_, mem, .inr long⟩
  | .set items => by
    rw [quoted, bind_eq_error_iff, quotedItems_eq_error_iff e items]
    constructor
    · rintro (⟨v, mem, long⟩ | ⟨_, _, h⟩)
      · exact .member mem long
      · split at h <;> exact absurd h pure_ne_error
    · intro h
      cases h with
      | member mem long => exact .inl ⟨_, mem, long⟩
  | .record model fields => by
    rw [quoted, bind_eq_error_iff, quotedFields_eq_error_iff e fields]
    constructor
    · rintro (⟨x, mem, long⟩ | ⟨_, _, h⟩)
      · exact .field mem long
      · exact absurd h pure_ne_error
    · intro h
      cases h with
      | field mem long => exact .inl ⟨_, mem, long⟩
  | .int n => by
    rw [quoted, quotedAtomic, decimalText_eq_error_iff]
    exact ⟨.int, fun h => by cases h with | int long => exact long⟩
  | .atom a => by
    rw [quoted, quotedAtomic]
    exact atom_quoted_eq_error_iff
  | .null => ⟨nofun, nofun⟩
  | .bool _ => ⟨nofun, nofun⟩
  | .float _ => ⟨nofun, nofun⟩
  | .text _ => ⟨nofun, nofun⟩
  | .bytes _ => ⟨nofun, nofun⟩
  | .date _ => ⟨nofun, nofun⟩
  | .dateTime _ => ⟨nofun, nofun⟩
  | .pattern _ => ⟨nofun, nofun⟩
  | .handle _ => ⟨nofun, nofun⟩

theorem quotedItems_eq_error_iff (e : TooManyDigits) :
    ∀ items : List Value, quotedItems items = .error e ↔ ∃ v ∈ items, v.Overlong
  | [] => by simp [quotedItems]
  | x :: xs => by
    simp only [quotedItems, bind_eq_error_iff, pure_ne_error, and_false, exists_false, or_false,
      error_or_iff]
    rw [quoted_eq_error_iff e x, quotedItems_eq_error_iff e xs]
    simp only [List.mem_cons, exists_eq_or_imp]

theorem quotedEntries_eq_error_iff (e : TooManyDigits) :
    ∀ entries : List (Value × Value),
      quotedEntries entries = .error e ↔ ∃ x ∈ entries, x.1.Overlong ∨ x.2.Overlong
  | [] => by simp [quotedEntries]
  | (k, v) :: rest => by
    simp only [quotedEntries, bind_eq_error_iff, pure_ne_error, and_false, exists_false, or_false,
      error_or_iff]
    rw [quoted_eq_error_iff e k, quoted_eq_error_iff e v, quotedEntries_eq_error_iff e rest]
    simp only [List.mem_cons, exists_eq_or_imp, or_assoc]

theorem quotedFields_eq_error_iff (e : TooManyDigits) :
    ∀ fields : List (String × Value),
      quotedFields fields = .error e ↔ ∃ x ∈ fields, x.2.Overlong
  | [] => by simp [quotedFields]
  | (_, v) :: rest => by
    simp only [quotedFields, bind_eq_error_iff, pure_ne_error, and_false, exists_false, or_false,
      error_or_iff]
    rw [quoted_eq_error_iff e v, quotedFields_eq_error_iff e rest]
    simp only [List.mem_cons, exists_eq_or_imp]

end

/-- A configured value can be written unless it is no member and an integer in it has too many
digits. -/
theorem configured_eq_error_iff {v : Value} {e : TooManyDigits} :
    v.configured = .error e ↔ v.asMember? = none ∧ v.Overlong := by
  unfold configured
  split
  · next m is => simp [is]
  · next none => simp [none, quoted_eq_error_iff]

theorem display_int (n : Int) : (Value.int n).display = decimalText n := by
  simp only [display, asMember?, quoted, quotedAtomic]

theorem overlong_of_atom_display {a : Atom} {e : TooManyDigits} (h : a.display = .error e) :
    (Value.atom a).Overlong := by
  obtain ⟨family, name, value, isValue⟩ := a
  rw [Atom.display] at h
  split at h
  · cases h
  · next n _ is =>
    simp only at is
    subst is
    exact .atom (decimalText_eq_error_iff.mp h)
  · cases h

theorem overlong_of_listTypeText {v : Value} {e : TooManyDigits} (h : listTypeText v = .error e) :
    v.Overlong := by
  induction v using listTypeText.induct with
  | case1 item ih =>
    rw [listTypeText, bind_eq_error_iff] at h
    obtain inner | ⟨_, _, h⟩ := h
    · exact .field List.mem_cons_self (ih inner)
    · exact absurd h pure_ne_error
  | case2 a =>
    rw [listTypeText] at h
    exact overlong_of_atom_display h
  | case3 v _ _ =>
    rw [listTypeText] at h
    · exact (quoted_eq_error_iff e v).mp h
    all_goals assumption

/-- A value whose text cannot be shown holds an integer with too many digits. -/
theorem overlong_of_display {v : Value} {e : TooManyDigits} (h : v.display = .error e) :
    v.Overlong := by
  unfold display at h
  split at h
  · cases h
  · exact overlong_of_listTypeText h
  · rw [bind_eq_error_iff, quotedFields_eq_error_iff] at h
    obtain ⟨x, mem, long⟩ | ⟨_, _, h⟩ := h
    · exact .field mem long
    · exact absurd h pure_ne_error
  · exact overlong_of_atom_display h
  · cases h
  · cases h
  · cases (quoted_eq_error_iff e _).mp h with
    | key mem long => exact .key mem long
    | entry mem long => exact .entry mem long
  · split at h
    · cases h
    · exact (quoted_eq_error_iff e _).mp h

/-- A value that counts as an integer is shown by its digits, or as the truth value it is. -/
theorem display_eq_error_iff_of_integer {v : Value} {n : Int} (h : v.comparable? = some (.int n))
    {e : TooManyDigits} : v.display = .error e ↔ IsOverlong n := by
  unfold comparable? at h
  split at h
  · next b =>
    have few : ¬IsOverlong n := by
      obtain rfl : (if b then 1 else 0) = n := by simpa using h
      exact not_isOverlong_of_lt (by cases b <;> decide)
    constructor
    · intro shown
      cases b <;> cases shown
    · exact fun long => absurd long few
  · unfold asNumber? at h
    split at h
    · cases h
      rw [display_int, decimalText_eq_error_iff]
    · cases h
    · cases h
      rw [display, Atom.display, decimalText_eq_error_iff]
    · cases h
    · cases h

/-- A text is its own text. -/
theorem display_of_asText {v : Value} {s : String} (h : v.asText? = some s) :
    v.display = .ok s := by
  unfold asText? at h
  split at h
  · cases h
    rfl
  · cases h
    rfl
  · cases h

end Value

end DataContract
