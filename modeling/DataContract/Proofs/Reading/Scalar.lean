/-
Which values are read as texts and truth values.

A value is read as a text if it spells it, as a text or as bytes, or if it is a member of an
enumeration, and then as the text of what is assigned to it (`text_eq_ok_iff`). It is read as a truth
value if it is one, if it is a number that equals zero or one, or if it spells a word for one
(`boolean_eq_ok_iff`). An integer that does not fit a word is read through the nearest double, which is
no smaller than the largest power of two in it (`Double.two_pow_le_units`) and so is neither zero nor
one.
-/
import DataContract.Proofs.Number.Exact
import DataContract.Proofs.Reading.Success

namespace DataContract

/-! ### The double nearest to a large integer -/

namespace Double

variable {negative sign : Bool} {n m : Int} {k whole : Nat}

theorem div_le_divideToEven (num den : Nat) : num / den ≤ divideToEven num den := by
  simp only [divideToEven]
  split_ifs <;> omega

/-- Rounding does not go below the largest power of two in a number of units. -/
theorem two_pow_le_units {mantissa shift : Nat} (some : whole ≠ 0)
    (h : ofUnitsRatio negative whole 1 = .finite sign mantissa shift) :
    2 ^ whole.log2 ≤ mantissa <<< shift := by
  simp only [ofUnitsRatio, Nat.div_one] at h
  generalize hs : whole.log2 - 52 = cut at h
  have below : cut ≤ whole.log2 := by omega
  have rounded : 2 ^ (whole.log2 - cut) ≤ divideToEven whole (1 <<< cut) := by
    refine le_trans ?_ (div_le_divideToEven _ _)
    rw [Nat.one_shiftLeft, ← Nat.pow_div below Nat.two_pos]
    exact Nat.div_le_div_right (Nat.log2_self_le some)
  have units : 2 ^ whole.log2 ≤ divideToEven whole (1 <<< cut) * 2 ^ cut := by
    calc 2 ^ whole.log2 = 2 ^ (whole.log2 - cut) * 2 ^ cut := by
          rw [← Nat.pow_add, Nat.sub_add_cancel below]
      _ ≤ divideToEven whole (1 <<< cut) * 2 ^ cut := Nat.mul_le_mul_right _ rounded
  rw [Nat.shiftLeft_eq]
  by_cases carry : divideToEven whole (1 <<< cut) = Nat.pow 2 53
  · -- one more bit: the mantissa is halved, and the shift makes up for it
    rw [if_pos carry] at h
    dsimp only at h
    split at h
    · cases h
    · cases h
      rw [carry] at units
      rw [Nat.pow_succ]
      refine units.trans_eq ?_
      show 2 ^ 53 * 2 ^ cut = 2 ^ 52 * (2 ^ cut * 2)
      ring
  · rw [if_neg carry] at h
    dsimp only at h
    split at h
    · cases h
    · cases h
      exact units

/-- The double nearest to an integer is no smaller than the largest power of two in it. -/
theorem two_pow_le_natAbs (large : 2 ^ k ≤ n.natAbs) (h : (ofInt n).toInt? = some m) :
    2 ^ k ≤ m.natAbs := by
  obtain ⟨e, unit⟩ : ∃ e, unitsPerOne = 2 ^ e := by
    unfold unitsPerOne
    generalize 1074 = e
    exact ⟨e, rfl⟩
  have whole : 2 ^ (k + e) ≤ n.natAbs * unitsPerOne := by
    rw [Nat.pow_add, ← unit]
    exact Nat.mul_le_mul_right _ large
  have some : n.natAbs * unitsPerOne ≠ 0 := (Nat.two_pow_pos _).trans_le whole |>.ne'
  rw [ofInt, ofRatio] at h
  cases nearest : ofUnitsRatio (n < 0) (n.natAbs * unitsPerOne) 1 with
  | nan =>
    rw [nearest] at h
    cases h
  | infinite sign =>
    rw [nearest] at h
    cases h
  | finite sign mantissa shift =>
    rw [nearest] at h
    simp only [toInt?] at h
    split at h
    · have units : 2 ^ (k + e) ≤ mantissa <<< shift :=
        le_trans (Nat.pow_le_pow_right Nat.two_pos ((Nat.le_log2 some).mpr whole))
          (two_pow_le_units some nearest)
      have size : m.natAbs = mantissa <<< shift / unitsPerOne := by
        cases h
        cases sign
        · exact Int.natAbs_natCast _
        · exact (Int.natAbs_neg _).trans (Int.natAbs_natCast _)
      rw [size, Nat.le_div_iff_mul_le unitsPerOne_pos, unit, ← Nat.pow_add]
      exact units
    · cases h

end Double

namespace Reading

variable {v : Value} {s : String} {b : Bool} {n : Int} {kind : FaultKind}

/-! ### Texts -/

/-- A value spells a text: it is the text, or the bytes of the text. -/
inductive Spells : Value → String → Prop where
  | text {v : Value} {s : String} (h : v.asText? = some s) : Spells v s
  | bytes {b : List UInt8} {s : String} (h : Utf8.decode b = .ok s) : Spells (.bytes b) s

/-- A value stands for a text: it spells it, or is a member and the text shows what is assigned to
it. -/
inductive StandsForText : Value → String → Prop where
  | spelled {v : Value} {s : String} (h : Spells v s) : StandsForText v s
  | assigned {v : Value} {b : Bound} (h : assigned? v = some b) : StandsForText v (assignedText b)

theorem writtenForm?_eq_some_iff : writtenForm? kind v = .ok (some s) ↔ Spells v s := by
  constructor
  · intro h
    unfold writtenForm? at h
    split at h
    · next asText =>
      cases h
      exact .text asText
    · split at h
      · next decoded =>
        cases h
        exact .bytes decoded
      · cases h
    · cases h
  · intro h
    cases h with
    | text h => simp only [writtenForm?, h]
    | bytes h => simp only [writtenForm?, Value.asText?, h]

/-- A member that spells a text has that text assigned to it. -/
theorem assignedText_of_spells {b : Bound} (h : assigned? v = some b) (spelled : Spells v s) :
    assignedText b = s := by
  cases spelled with
  | bytes _ => cases h
  | text asText =>
    unfold Value.asText? at asText
    split at asText
    · cases h
    · cases asText
      cases h
      rfl
    · cases asText

theorem text_of_spells (h : Spells v s) : text v = .ok s := by
  simp only [text, writtenForm?_eq_some_iff.mpr h]

theorem text_of_assigned {b : Bound} (h : assigned? v = some b) : text v = .ok (assignedText b) := by
  unfold text
  cases form : writtenForm? .notUnicode v with
  | error e =>
    -- only bytes can fail here, and these are no member
    unfold writtenForm? at form
    split at form
    · cases form
    · cases h
    · cases form
  | ok spelled =>
    cases spelled with
    | some t =>
      exact congrArg Except.ok (assignedText_of_spells h (writtenForm?_eq_some_iff.mp form)).symm
    | none => simp only [h]

theorem text_eq_ok_iff : text v = .ok s ↔ StandsForText v s := by
  constructor
  · intro h
    unfold text at h
    split at h
    · cases h
    · next form =>
      cases h
      exact .spelled (writtenForm?_eq_some_iff.mp form)
    · split at h
      · next assigned =>
        cases h
        exact .assigned assigned
      · cases h
  · intro h
    cases h with
    | spelled h => exact text_of_spells h
    | assigned h => exact text_of_assigned h

theorem optionalText_eq_ok_iff {o : Option String} : optionalText v = .ok o ↔
    v = .null ∧ o = none ∨ ∃ s, StandsForText v s ∧ o = some s := by
  by_cases given : v = .null
  · subst given
    have none : ∀ s, ¬StandsForText .null s := fun s h => by
      have read := text_eq_ok_iff.mpr h
      cases read
    simp [optionalText, none, eq_comm]
  · have read : optionalText v = (text v).map some := by
      cases v with
      | null => exact absurd rfl given
      | _ => rfl
    rw [read, map_eq_ok_iff]
    simp only [text_eq_ok_iff, given, false_and, false_or, @eq_comm _ o]

/-! ### Truth values -/

/-- The words for truth values, in small letters. -/
def truthWords : List (String × Bool) :=
  [("0", false), ("f", false), ("n", false), ("no", false), ("off", false), ("false", false),
    ("1", true), ("t", true), ("y", true), ("on", true), ("yes", true), ("true", true)]

/-- A value stands for a truth value: it is one, a number that equals zero or one, or spells a word
for one in any case. -/
inductive StandsForTruth : Value → Bool → Prop where
  | bool (b : Bool) : StandsForTruth (.bool b) b
  | number {v : Value} {x : Number} {b : Bool} (h : v.asNumber? = some x)
    (same : (Number.int b.toInt).beq x = true) : StandsForTruth v b
  | word {v : Value} {s : String} {b : Bool} (h : Spells v s) (known : (s.toLower, b) ∈ truthWords) :
    StandsForTruth v b

theorem booleanOfText_eq_ok_iff : booleanOfText s = .ok b ↔ (s.toLower, b) ∈ truthWords := by
  simp only [booleanOfText]
  generalize s.toLower = word
  have no : ["0", "f", "n", "no", "off", "false"].contains word = true ↔
      (word, false) ∈ truthWords := by
    simp [truthWords]
  have yes : ["1", "t", "y", "on", "yes", "true"].contains word = true ↔
      (word, true) ∈ truthWords := by
    simp [truthWords]
  have apart : (word, false) ∈ truthWords → (word, true) ∉ truthWords := by
    intro mem
    simp only [truthWords, List.mem_cons, Prod.mk.injEq, and_true, and_false, or_false,
      List.not_mem_nil, Bool.false_eq_true] at mem
    rcases mem with rfl | rfl | rfl | rfl | rfl | rfl <;> decide
  split_ifs with negative positive
  · cases b
    · exact iff_of_true rfl (no.mp negative)
    · exact iff_of_false (fun h => by cases h) (apart (no.mp negative))
  · cases b
    · exact iff_of_false (fun h => by cases h) (mt no.mpr negative)
    · exact iff_of_true rfl (yes.mp positive)
  · cases b
    · exact iff_of_false (fun h => by cases h) (mt no.mpr negative)
    · exact iff_of_false (fun h => by cases h) (mt yes.mpr positive)

theorem booleanOfInteger_eq_ok_iff : booleanOfInteger n = .ok b ↔ b.toInt = n := by
  rw [booleanOfInteger]
  split_ifs with zero one
  · subst zero
    cases b <;> simp
  · subst one
    cases b <;> simp
  · cases b
    · exact iff_of_false (fun h => by cases h) fun same => zero same.symm
    · exact iff_of_false (fun h => by cases h) fun same => one same.symm

theorem integerOfDouble_eq_ok_iff {x : Double} : integerOfDouble x = .ok n ↔
    x.toInt? = some n ∧ -wordBound < n ∧ n < wordBound := by
  cases x with
  | nan => exact iff_of_false (fun h => by cases h) fun h => by cases h.1
  | infinite sign => exact iff_of_false (fun h => by cases h) fun h => by cases h.1
  | finite sign mantissa shift =>
    simp only [integerOfDouble]
    cases Double.toInt? (.finite sign mantissa shift) with
    | none => exact iff_of_false (fun h => by cases h) fun h => by cases h.1
    | some k =>
      by_cases fits : -wordBound < k ∧ k < wordBound
      · simp only [if_pos fits, Except.ok.injEq, Option.some.injEq]
        exact ⟨fun same => ⟨same, same ▸ fits⟩, And.left⟩
      · simp only [if_neg fits, Option.some.injEq]
        refine iff_of_false (fun h => by cases h) fun h => fits ?_
        rw [h.1]
        exact h.2

/-- A double is read as a truth value if it equals zero or one. -/
theorem booleanOfDouble_eq_ok_iff {x : Double} :
    booleanOfDouble x = .ok b ↔ (Number.int b.toInt).beq (.double x) = true := by
  have small : -wordBound < b.toInt ∧ b.toInt < wordBound := by cases b <;> decide
  rw [Number.beq_int_double_iff]
  constructor
  · intro h
    rw [booleanOfDouble] at h
    split at h
    · next k whole =>
      rw [booleanOfInteger_eq_ok_iff.mp h]
      exact (integerOfDouble_eq_ok_iff.mp whole).1
    · cases h
  · intro same
    rw [booleanOfDouble, integerOfDouble_eq_ok_iff.mpr ⟨same, small⟩]
    exact booleanOfInteger_eq_ok_iff.mpr rfl

/-- An integer that does not fit a word is read as no truth value, for the nearest double does not
fit one either. -/
theorem not_booleanOfDouble_ofInt (large : ¬(-wordBound ≤ n ∧ n < wordBound)) :
    booleanOfDouble (.ofInt n) ≠ .ok b := by
  have size : 2 ^ 63 ≤ n.natAbs := by
    unfold wordBound at large
    omega
  intro h
  have whole := Number.beq_int_double_iff.mp (booleanOfDouble_eq_ok_iff.mp h)
  have rounded := Double.two_pow_le_natAbs size whole
  cases b <;> exact absurd rounded (by decide)

theorem beq_int_iff {m k : Int} : (Number.int m).beq (.int k) = true ↔ m = k := by
  have unit : (Double.unitsPerOne : Int) ≠ 0 :=
    Int.natCast_ne_zero.mpr Double.unitsPerOne_pos.ne'
  show (LinePoint.finite _ == LinePoint.finite _) = true ↔ _
  rw [beq_iff_eq, LinePoint.finite.injEq]
  exact mul_left_inj' unit

theorem boolean_of_number {x : Number} (h : v.asNumber? = some x) :
    boolean v = .ok b ↔ (Number.int b.toInt).beq x = true := by
  cases v with
  | int n =>
    cases h
    rw [beq_int_iff]
    by_cases fits : -wordBound ≤ n ∧ n < wordBound
    · rw [boolean, if_pos fits, booleanOfInteger_eq_ok_iff]
    · rw [boolean, if_neg fits]
      refine iff_of_false (not_booleanOfDouble_ofInt fits) fun same => fits ?_
      subst same
      cases b <;> decide
  | float x =>
    cases h
    exact booleanOfDouble_eq_ok_iff
  | atom a =>
    obtain ⟨family, name, value, isValue⟩ := a
    cases value with
    | text t => cases h
    | number n =>
      cases isValue with
      | false => cases h
      | true =>
        cases h
        rw [beq_int_iff]
        exact booleanOfInteger_eq_ok_iff
    | double x =>
      cases isValue with
      | false => cases h
      | true =>
        cases h
        exact booleanOfDouble_eq_ok_iff
  | _ => cases h

theorem boolean_of_spells (h : Spells v s) : boolean v = booleanOfText s := by
  cases h with
  | text h => obtain rfl | ⟨family, name, rfl⟩ := Value.eq_of_asText h <;> rfl
  | bytes h => simp only [boolean, writtenForm?, Value.asText?, h]

theorem boolean_eq_ok_iff : boolean v = .ok b ↔ StandsForTruth v b := by
  constructor
  · intro h
    have word : ∀ {s}, Spells v s → StandsForTruth v b := by
      intro s spelled
      rw [boolean_of_spells spelled, booleanOfText_eq_ok_iff] at h
      exact .word spelled h
    have number : ∀ {x}, v.asNumber? = some x → StandsForTruth v b := fun h' =>
      .number h' ((boolean_of_number h').mp h)
    cases v with
    | bool c =>
      cases h
      exact .bool b
    | int n => exact number rfl
    | float x => exact number rfl
    | text s => exact word (.text rfl)
    | bytes bs =>
      cases decoded : Utf8.decode bs with
      | ok s => exact word (.bytes decoded)
      | error fault =>
        simp only [boolean, writtenForm?, Value.asText?, decoded] at h
        cases h
    | atom a =>
      obtain ⟨family, name, value, isValue⟩ := a
      -- a member that merely has a value assigned to it stands for no truth value
      cases isValue with
      | false => cases value <;> cases h
      | true =>
        cases value with
        | text s => exact word (.text rfl)
        | number n => exact number rfl
        | double x => exact number rfl
    | _ => cases h
  · intro h
    cases h with
    | bool => rfl
    | number h same => exact (boolean_of_number h).mpr same
    | word spelled known =>
      rw [boolean_of_spells spelled]
      exact booleanOfText_eq_ok_iff.mpr known

end Reading

end DataContract
