/-
When constraints answer, and with what.

A check comes to no answer in a few cases only, listed in `Constraint.Unanswerable`: a pattern of
bytes before a text, a number before a bound that is no number, and a message in which an integer with
too many digits would have to be written.

* `Constraint.exists_check_eq_error_iff` — a check fails in these cases and no others;
* `Constraint.says_of_check_eq_some` — the messages (`Constraint.Says`) of values that fail;
* `Constraint.checkAll_eq_ok_iff` — several constraints answer if each does, with the messages of
  those that the value fails, in their order.
-/
import DataContract.Contract.Constraint
import DataContract.Proofs.Value.Written

namespace DataContract.Constraint

/-- A check of a value that comes to no answer. -/
inductive Unanswerable : Constraint → Value → Prop where
  /-- A pattern of bytes cannot search a text. -/
  | bytesPattern {p : Pattern} {v : Value} {s : String} (bytes : p.source.isText = false)
    (text : v.asText? = some s) : Unanswerable (.format p) v
  | minLength {n : Nat} {v : Value} {s : String} (text : v.asText? = some s)
    (short : graphemeCount s < n) (long : IsOverlong n) : Unanswerable (.minLength n) v
  | maxLength {n : Nat} {v : Value} {s : String} (text : v.asText? = some s)
    (exceeding : n < graphemeCount s) (long : IsOverlong n) : Unanswerable (.maxLength n) v
  /-- A number does not compare with a bound that is none. -/
  | unorderedMin {b : Bound} {v : Value} {n : Number} (other : ∀ m, b ≠ .number m)
    (number : v.asNumber? = some n) : Unanswerable (.min b) v
  | unorderedMax {b : Bound} {v : Value} {n : Number} (other : ∀ m, b ≠ .number m)
    (number : v.asNumber? = some n) : Unanswerable (.max b) v
  | min {m : Int} {v : Value} {n : Number} (number : v.asNumber? = some n)
    (below : Number.le (.int m) n = false) (long : IsOverlong m) :
    Unanswerable (.min (.number (.int m))) v
  | max {m : Int} {v : Value} {n : Number} (number : v.asNumber? = some n)
    (above : Number.le n (.int m) = false) (long : IsOverlong m) :
    Unanswerable (.max (.number (.int m))) v
  | oneOf {values : List Value} {v w : Value} (other : isOneOf values v = false)
    (mem : w ∈ values) (plain : w.asMember? = none) (long : w.Overlong) :
    Unanswerable (.oneOf values) v

/-- A value fails a constraint, and the message says so. -/
inductive Says : Constraint → Value → String → Prop where
  | format {p : Pattern} {v : Value} {s : String} (text : v.asText? = some s)
    (missed : p.search s = .ok false) : Says (.format p) v "does not match format"
  | minLength {n : Nat} {v : Value} {s t : String} (text : v.asText? = some s)
    (short : graphemeCount s < n) (written : decimalText n = .ok t) :
    Says (.minLength n) v ("must be at least " ++ t ++ " characters (minimum length)")
  | maxLength {n : Nat} {v : Value} {s t : String} (text : v.asText? = some s)
    (exceeding : n < graphemeCount s) (written : decimalText n = .ok t) :
    Says (.maxLength n) v ("must be at most " ++ t ++ " characters (maximum length)")
  | min {b n : Number} {v : Value} {t : String} (number : v.asNumber? = some n)
    (below : b.le n = false) (written : b.text = .ok t) :
    Says (.min (.number b)) v ("must be >= " ++ t ++ " (minimum value)")
  | max {b n : Number} {v : Value} {t : String} (number : v.asNumber? = some n)
    (above : n.le b = false) (written : b.text = .ok t) :
    Says (.max (.number b)) v ("must be <= " ++ t ++ " (maximum value)")
  | oneOf {values : List Value} {v : Value} {ts : List String} (other : isOneOf values v = false)
    (written : configuredTexts values = .ok ts) :
    Says (.oneOf values) v ("must be one of: " ++ ", ".intercalate ts)

theorem ofText_eq_ok_iff {α : Type} {x : Except TooManyDigits α} {a : α} :
    CheckFault.ofText x = .ok a ↔ x = .ok a := by
  cases x with
  | ok b => simp [CheckFault.ofText]
  | error d => simp [CheckFault.ofText]

theorem ofText_eq_error_iff {α : Type} {x : Except TooManyDigits α} {e : CheckFault} :
    CheckFault.ofText x = .error e ↔ x = .error .mk ∧ e = .tooManyDigits := by
  cases x with
  | ok a => simp [CheckFault.ofText]
  | error d => simp [CheckFault.ofText, eq_comm]

theorem ofSearch_eq_error_iff {α : Type} {x : Except BytesPattern α} {e : CheckFault} :
    CheckFault.ofSearch x = .error e ↔ x = .error .mk ∧ e = .bytesPattern := by
  cases x with
  | ok a => simp [CheckFault.ofSearch]
  | error d => simp [CheckFault.ofSearch, eq_comm]

theorem ofSearch_eq_ok_iff {α : Type} {x : Except BytesPattern α} {a : α} :
    CheckFault.ofSearch x = .ok a ↔ x = .ok a := by
  cases x with
  | ok b => simp [CheckFault.ofSearch]
  | error d => simp [CheckFault.ofSearch]

theorem search_eq_error_iff {p : Pattern} {s : String} {e : BytesPattern} :
    p.search s = .error e ↔ p.source.isText = false := by
  rw [Pattern.search]
  cases p.source with
  | text s => simp [PatternSource.isText]
  | bytes b => simp [PatternSource.isText]

theorem number_text_eq_error_iff {n : Number} {e : TooManyDigits} :
    n.text = .error e ↔ ∃ m, n = .int m ∧ IsOverlong m := by
  cases n with
  | int m => simp [Number.text, decimalText_eq_error_iff]
  | double x => simp [Number.text]

theorem configuredTexts_eq_error_iff {values : List Value} {e : TooManyDigits} :
    configuredTexts values = .error e ↔ ∃ w ∈ values, w.asMember? = none ∧ w.Overlong := by
  induction values with
  | nil => simp [configuredTexts]
  | cons v rest ih =>
    simp only [configuredTexts, bind_eq_error_iff, pure_ne_error, and_false, exists_false,
      or_false, error_or_iff]
    rw [Value.configured_eq_error_iff, ih]
    simp only [List.mem_cons, exists_eq_or_imp]

/-- A message around a text fails to be written if the text does. -/
theorem message_eq_error_iff {α : Type} {x : Except TooManyDigits α} {f : α → Option String}
    {e : CheckFault} :
    (CheckFault.ofText x >>= fun a => pure (f a)) = .error e ↔
      x = .error .mk ∧ e = .tooManyDigits := by
  rw [bind_eq_error_iff, ofText_eq_error_iff]
  simp only [pure_ne_error, and_false, exists_false, or_false]

/-- Where a failing value is told a message, or none can be written, passing is the condition. -/
theorem unless_message_eq_ok_none_iff {α : Type} {passes : Prop} [Decidable passes]
    {x : Except TooManyDigits α} {f : α → String} :
    (if passes then .ok none else CheckFault.ofText x >>= fun a => pure (some (f a))) = .ok none ↔
      passes := by
  split
  · next holds => exact iff_of_true rfl holds
  · next fails =>
    refine iff_of_false (fun passed => ?_) fails
    obtain ⟨a, -, said⟩ := bind_eq_ok_iff.mp passed
    cases said

theorem Unanswerable.check_eq_error {c : Constraint} {v : Value} (h : c.Unanswerable v) :
    ∃ e, c.check v = .error e := by
  cases h with
  | bytesPattern bytes text =>
    refine ⟨.bytesPattern, ?_⟩
    simp only [check, text]
    rw [bind_eq_error_iff, ofSearch_eq_error_iff]
    exact .inl ⟨search_eq_error_iff.mpr bytes, rfl⟩
  -- from here on the value fails, and it is the message that cannot be written
  | minLength text short long =>
    refine ⟨.tooManyDigits, ?_⟩
    simp only [check, text, if_neg (Nat.not_le.mpr short)]
    exact message_eq_error_iff.mpr ⟨decimalText_eq_error_iff.mpr long, rfl⟩
  | maxLength text exceeding long =>
    refine ⟨.tooManyDigits, ?_⟩
    simp only [check, text, if_neg (Nat.not_le.mpr exceeding)]
    exact message_eq_error_iff.mpr ⟨decimalText_eq_error_iff.mpr long, rfl⟩
  | @unorderedMin b _ _ other number =>
    cases b with
    | number m => exact absurd rfl (other m)
    | _ => exact ⟨_, by simp only [check, number]; rfl⟩
  | @unorderedMax b _ _ other number =>
    cases b with
    | number m => exact absurd rfl (other m)
    | _ => exact ⟨_, by simp only [check, number]; rfl⟩
  | min number below long =>
    refine ⟨.tooManyDigits, ?_⟩
    simp only [check, number, below, Bool.false_eq_true, if_false]
    exact message_eq_error_iff.mpr ⟨number_text_eq_error_iff.mpr ⟨_, rfl, long⟩, rfl⟩
  | max number above long =>
    refine ⟨.tooManyDigits, ?_⟩
    simp only [check, number, above, Bool.false_eq_true, if_false]
    exact message_eq_error_iff.mpr ⟨number_text_eq_error_iff.mpr ⟨_, rfl, long⟩, rfl⟩
  | oneOf other mem plain long =>
    refine ⟨.tooManyDigits, ?_⟩
    simp only [check, other, Bool.false_eq_true, if_false]
    exact message_eq_error_iff.mpr ⟨configuredTexts_eq_error_iff.mpr ⟨_, mem, plain, long⟩, rfl⟩

theorem unanswerable_of_check_eq_error {c : Constraint} {v : Value} {e : CheckFault}
    (h : c.check v = .error e) : c.Unanswerable v := by
  cases c with
  | format p =>
    simp only [check] at h
    split at h
    · cases h
    · rename_i s text
      simp only [bind_eq_error_iff, ofSearch_eq_error_iff, pure_ne_error, and_false,
        exists_false, or_false] at h
      exact .bytesPattern (search_eq_error_iff.mp h.1) text
  | minLength n =>
    simp only [check] at h
    split at h
    · cases h
    · rename_i s text
      split at h
      · cases h
      -- the length falls short, so only writing the bound can have failed
      · rename_i short
        have long := decimalText_eq_error_iff.mp (message_eq_error_iff.mp h).1
        exact .minLength text (Nat.not_le.mp short) long
  | maxLength n =>
    simp only [check] at h
    split at h
    · cases h
    · rename_i s text
      split at h
      · cases h
      · rename_i exceeding
        have long := decimalText_eq_error_iff.mp (message_eq_error_iff.mp h).1
        exact .maxLength text (Nat.not_le.mp exceeding) long
  | min b =>
    simp only [check] at h
    split at h
    · cases h
    · rename_i n bound number
      split at h
      · cases h
      · rename_i below
        obtain ⟨m, rfl, long⟩ := number_text_eq_error_iff.mp (message_eq_error_iff.mp h).1
        exact .min number (Bool.not_eq_true _ ▸ below) long
    · rename_i n number other
      exact .unorderedMin other number
  | max b =>
    simp only [check] at h
    split at h
    · cases h
    · rename_i n bound number
      split at h
      · cases h
      · rename_i above
        obtain ⟨m, rfl, long⟩ := number_text_eq_error_iff.mp (message_eq_error_iff.mp h).1
        exact .max number (Bool.not_eq_true _ ▸ above) long
    · rename_i n number other
      exact .unorderedMax other number
  | oneOf values =>
    simp only [check] at h
    split at h
    · cases h
    · rename_i other
      obtain ⟨w, mem, plain, long⟩ :=
        configuredTexts_eq_error_iff.mp (message_eq_error_iff.mp h).1
      exact .oneOf (Bool.not_eq_true _ ▸ other) mem plain long

theorem says_of_check_eq_some {c : Constraint} {v : Value} {m : String}
    (h : c.check v = .ok (some m)) : c.Says v m := by
  cases c with
  | format p =>
    simp only [check] at h
    split at h
    · cases h
    · rename_i s text
      obtain ⟨found, hf, hm⟩ := bind_eq_ok_iff.mp h
      cases found with
      | true => cases hm
      | false =>
        cases hm
        exact .format text (ofSearch_eq_ok_iff.mp hf)
  | minLength n =>
    simp only [check] at h
    split at h
    · cases h
    · rename_i s text
      split at h
      · cases h
      · rename_i short
        obtain ⟨t, written, hm⟩ := bind_eq_ok_iff.mp h
        cases hm
        exact .minLength text (Nat.not_le.mp short) (ofText_eq_ok_iff.mp written)
  | maxLength n =>
    simp only [check] at h
    split at h
    · cases h
    · rename_i s text
      split at h
      · cases h
      · rename_i exceeding
        obtain ⟨t, written, hm⟩ := bind_eq_ok_iff.mp h
        cases hm
        exact .maxLength text (Nat.not_le.mp exceeding) (ofText_eq_ok_iff.mp written)
  | min b =>
    simp only [check] at h
    split at h
    · cases h
    · rename_i n bound number
      split at h
      · cases h
      · rename_i below
        obtain ⟨t, written, hm⟩ := bind_eq_ok_iff.mp h
        cases hm
        exact .min number (Bool.not_eq_true _ ▸ below) (ofText_eq_ok_iff.mp written)
    · cases h
  | max b =>
    simp only [check] at h
    split at h
    · cases h
    · rename_i n bound number
      split at h
      · cases h
      · rename_i above
        obtain ⟨t, written, hm⟩ := bind_eq_ok_iff.mp h
        cases hm
        exact .max number (Bool.not_eq_true _ ▸ above) (ofText_eq_ok_iff.mp written)
    · cases h
  | oneOf values =>
    simp only [check] at h
    split at h
    · cases h
    · rename_i other
      obtain ⟨ts, written, hm⟩ := bind_eq_ok_iff.mp h
      cases hm
      exact .oneOf (Bool.not_eq_true _ ▸ other) (ofText_eq_ok_iff.mp written)

/-- A check comes to no answer in the cases listed, and in no others. -/
theorem exists_check_eq_error_iff {c : Constraint} {v : Value} :
    (∃ e, c.check v = .error e) ↔ c.Unanswerable v :=
  ⟨fun ⟨_, h⟩ => unanswerable_of_check_eq_error h, Unanswerable.check_eq_error⟩

/-! ### Several constraints -/

/-- The message of a value that fails a constraint; none if it passes or there is no answer. -/
def message? (c : Constraint) (v : Value) : Option String :=
  match c.check v with
  | .ok message => message
  | .error _ => none

/-- A value passes every one of several constraints. -/
def AllPass (constraints : List Constraint) (v : Value) : Prop :=
  ∀ c ∈ constraints, c.check v = .ok none

theorem checkAll_eq_ok_iff {constraints : List Constraint} {v : Value} {messages : List String} :
    checkAll constraints v = .ok messages ↔
      (∀ c ∈ constraints, ∃ a, c.check v = .ok a) ∧
        messages = constraints.filterMap (·.message? v) := by
  induction constraints generalizing messages with
  | nil => simp [checkAll, eq_comm]
  | cons c rest ih =>
    simp only [checkAll, bind_eq_ok_iff, pure_eq_ok_iff, ih, List.forall_mem_cons]
    constructor
    · rintro ⟨a, ha, others, ⟨answered, rfl⟩, rfl⟩
      refine ⟨⟨⟨a, ha⟩, answered⟩, ?_⟩
      cases a <;> simp [message?, ha]
    · rintro ⟨⟨⟨a, ha⟩, answered⟩, rfl⟩
      refine ⟨a, ha, _, ⟨answered, rfl⟩, ?_⟩
      cases a <;> simp [message?, ha]

theorem exists_checkAll_eq_error_iff {constraints : List Constraint} {v : Value} :
    (∃ e, checkAll constraints v = .error e) ↔ ∃ c ∈ constraints, c.Unanswerable v := by
  -- several constraints answer together if each does, whatever they answer
  have answered : (∃ messages, checkAll constraints v = .ok messages) ↔
      ∀ c ∈ constraints, ∃ a, c.check v = .ok a := by
    simp only [checkAll_eq_ok_iff, exists_and_left, exists_eq, and_true]
  rw [exists_error_iff, answered]
  simp only [← exists_check_eq_error_iff, exists_error_iff, Classical.not_forall, exists_prop]

/-- Several constraints have nothing to say exactly if the value passes each. -/
theorem checkAll_eq_nil_iff {constraints : List Constraint} {v : Value} :
    checkAll constraints v = .ok [] ↔ AllPass constraints v := by
  rw [checkAll_eq_ok_iff, eq_comm (a := []), List.filterMap_eq_nil_iff]
  constructor
  · rintro ⟨answered, silent⟩ c mem
    obtain ⟨a, ha⟩ := answered c mem
    have hm : a = none := by simpa [message?, ha] using silent c mem
    rw [ha, hm]
  · intro pass
    exact ⟨fun c mem => ⟨none, pass c mem⟩, fun c mem => by simp [message?, pass c mem]⟩

end DataContract.Constraint
