/-
Bounds that constraints compare with.

A number passes a least or a greatest value as its exact value says (`check_min_eq_ok_iff`,
`check_max_eq_ok_iff`), and NaN passes neither. So bounds of either kind of number are monotone,
and two bounds admit no number exactly if they are crossed: `bounds_compare_exactly`.
-/
import DataContract.Contract.FieldType
import DataContract.Proofs.Contract.Check
import DataContract.Proofs.Number.Exact

namespace DataContract

/-- What counts as a number is what an integer or a float field accepts. -/
theorem Value.isSome_asNumber?_iff {v : Value} : v.asNumber?.isSome = true ↔
    (FieldType.kind .integer).accepts v = true ∨ (FieldType.kind .float).accepts v = true := by
  cases v with
  | atom a =>
    obtain ⟨family, name, value, isValue⟩ := a
    cases value <;> cases isValue <;> simp [asNumber?, FieldType.accepts, FieldKind.accepts]
  | _ => simp [asNumber?, FieldType.accepts, FieldKind.accepts]

/-- Every number that has a value is one of the values that are checked. -/
theorem Number.exists_asNumber? (n : Number) : ∃ v : Value, v.asNumber? = some n := by
  cases n with
  | int n => exact ⟨.int n, rfl⟩
  | double x => exact ⟨.float x, rfl⟩

namespace Constraint

variable {v : Value} {x n a b : Number} {p q : ExtendedRational} {t : String}

theorem check_min_eq_ok_iff (number : v.asNumber? = some x) :
    (min (.number n)).check v = .ok none ↔ n.le x = true := by
  simp only [check, number]
  exact unless_message_eq_ok_none_iff

theorem check_max_eq_ok_iff (number : v.asNumber? = some x) :
    (max (.number n)).check v = .ok none ↔ x.le n = true := by
  simp only [check, number]
  exact unless_message_eq_ok_none_iff

/-- What is no number passes every bound. -/
theorem check_bound_of_no_number (other : v.asNumber? = none) (b : Bound) :
    (min b).check v = .ok none ∧ (max b).check v = .ok none := by
  simp only [check, other, and_self]

theorem check_min_of_fails (written : n.text = .ok t) (fails : (min (.number n)).check v ≠ .ok none) :
    (min (.number n)).check v = .ok (some ("must be >= " ++ t ++ " (minimum value)")) := by
  cases number : v.asNumber? with
  | none => exact absurd (check_bound_of_no_number number _).1 fails
  | some x =>
    simp only [check, number] at fails ⊢
    split
    · next reached => exact absurd (if_pos reached) fails
    · rw [written]
      rfl

theorem check_max_of_fails (written : n.text = .ok t) (fails : (max (.number n)).check v ≠ .ok none) :
    (max (.number n)).check v = .ok (some ("must be <= " ++ t ++ " (maximum value)")) := by
  cases number : v.asNumber? with
  | none => exact absurd (check_bound_of_no_number number _).2 fails
  | some x =>
    simp only [check, number] at fails ⊢
    split
    · next within => exact absurd (if_pos within) fails
    · rw [written]
      rfl

/-- What reaches a least value reaches every smaller one. -/
theorem check_min_of_weaker (first : a.value? = some p) (second : b.value? = some q) (weaker : q ≤ p)
    (passed : (min (.number a)).check v = .ok none) : (min (.number b)).check v = .ok none := by
  cases number : v.asNumber? with
  | none => exact (check_bound_of_no_number number _).1
  | some x =>
    rw [check_min_eq_ok_iff number, Number.le_eq_true_iff] at passed ⊢
    obtain ⟨p', r, bound, value, reached⟩ := passed
    obtain rfl := Option.some.inj (bound.symm.trans first)
    exact ⟨q, r, second, value, weaker.trans reached⟩

/-- What stays within a greatest value stays within every larger one. -/
theorem check_max_of_weaker (first : a.value? = some p) (second : b.value? = some q) (weaker : p ≤ q)
    (passed : (max (.number a)).check v = .ok none) : (max (.number b)).check v = .ok none := by
  cases number : v.asNumber? with
  | none => exact (check_bound_of_no_number number _).2
  | some x =>
    rw [check_max_eq_ok_iff number, Number.le_eq_true_iff] at passed ⊢
    obtain ⟨r, p', value, bound, within⟩ := passed
    obtain rfl := Option.some.inj (bound.symm.trans first)
    exact ⟨r, q, value, second, within.trans weaker⟩

/-- Some number is between two bounds exactly if the bounds are not crossed; the least value itself
is then one. -/
theorem exists_between_iff (first : a.value? = some p) (second : b.value? = some q) :
    (∃ v x, v.asNumber? = some x ∧ (min (.number a)).check v = .ok none ∧
      (max (.number b)).check v = .ok none) ↔ p ≤ q := by
  constructor
  · rintro ⟨v, x, number, reached, within⟩
    rw [check_min_eq_ok_iff number, Number.le_eq_true_iff] at reached
    rw [check_max_eq_ok_iff number, Number.le_eq_true_iff] at within
    obtain ⟨p', r, least, value, above⟩ := reached
    obtain ⟨r', q', value', greatest, below⟩ := within
    obtain rfl := Option.some.inj (least.symm.trans first)
    obtain rfl := Option.some.inj (greatest.symm.trans second)
    obtain rfl := Option.some.inj (value.symm.trans value')
    exact above.trans below
  · intro ordered
    obtain ⟨v, number⟩ := a.exists_asNumber?
    refine ⟨v, a, number, ?_, ?_⟩
    · exact (check_min_eq_ok_iff number).mpr ((Number.le_eq_true_iff_of_value first first).mpr le_rfl)
    · exact (check_max_eq_ok_iff number).mpr ((Number.le_eq_true_iff_of_value first second).mpr ordered)

end Constraint

/-- Bounds compare exact values.

* A number passes a least value exactly if it is not below it, and a greatest value exactly if it
  is not above it, as rational numbers with both ends and without any rounding.
* NaN on either side fails both. What fails is told so, unless the bound is an integer of so many
  digits that it cannot be written.
* What is neither an integer nor a float, as no truth value is, passes every bound.
* What passes a bound passes every weaker one, be they integers or doubles.
* A least and a greatest value together refuse every number exactly if the least is the greater. -/
theorem bounds_compare_exactly :
    (∀ {v : Value} {x n : Number}, v.asNumber? = some x →
      ((Constraint.min (.number n)).check v = .ok none ↔
        ∃ q p, n.value? = some q ∧ x.value? = some p ∧ q ≤ p) ∧
      ((Constraint.max (.number n)).check v = .ok none ↔
        ∃ p q, x.value? = some p ∧ n.value? = some q ∧ p ≤ q)) ∧
    (∀ {v : Value} {x n : Number}, v.asNumber? = some x → x = .double .nan ∨ n = .double .nan →
      (Constraint.min (.number n)).check v ≠ .ok none ∧
        (Constraint.max (.number n)).check v ≠ .ok none) ∧
    (∀ {v : Value} {n : Number} {t : String}, n.text = .ok t →
      ((Constraint.min (.number n)).check v ≠ .ok none →
        (Constraint.min (.number n)).check v =
          .ok (some ("must be >= " ++ t ++ " (minimum value)"))) ∧
      ((Constraint.max (.number n)).check v ≠ .ok none →
        (Constraint.max (.number n)).check v =
          .ok (some ("must be <= " ++ t ++ " (maximum value)")))) ∧
    (∀ {v : Value}, (FieldType.kind .integer).accepts v = false →
      (FieldType.kind .float).accepts v = false → ∀ b,
        (Constraint.min b).check v = .ok none ∧ (Constraint.max b).check v = .ok none) ∧
    (∀ truth b, (Constraint.min b).check (.bool truth) = .ok none ∧
      (Constraint.max b).check (.bool truth) = .ok none) ∧
    (∀ {a b : Number} {p q : ExtendedRational}, a.value? = some p → b.value? = some q → q ≤ p →
      ∀ v, ((Constraint.min (.number a)).check v = .ok none →
          (Constraint.min (.number b)).check v = .ok none) ∧
        ((Constraint.max (.number b)).check v = .ok none →
          (Constraint.max (.number a)).check v = .ok none)) ∧
    ∀ {a b : Number} {p q : ExtendedRational}, a.value? = some p → b.value? = some q →
      ((∀ v x, v.asNumber? = some x → ¬((Constraint.min (.number a)).check v = .ok none ∧
        (Constraint.max (.number b)).check v = .ok none)) ↔ q < p) := by
  have least : ∀ {v : Value} {x n : Number}, v.asNumber? = some x →
      ((Constraint.min (.number n)).check v = .ok none ↔
        ∃ q p, n.value? = some q ∧ x.value? = some p ∧ q ≤ p) :=
    fun number => (Constraint.check_min_eq_ok_iff number).trans Number.le_eq_true_iff
  have greatest : ∀ {v : Value} {x n : Number}, v.asNumber? = some x →
      ((Constraint.max (.number n)).check v = .ok none ↔
        ∃ p q, x.value? = some p ∧ n.value? = some q ∧ p ≤ q) :=
    fun number => (Constraint.check_max_eq_ok_iff number).trans Number.le_eq_true_iff
  refine ⟨fun number => ⟨least number, greatest number⟩, fun number nan => ⟨?_, ?_⟩,
    fun written => ⟨Constraint.check_min_of_fails written, Constraint.check_max_of_fails written⟩,
    fun integer float b => Constraint.check_bound_of_no_number ?_ b,
    fun truth b => Constraint.check_bound_of_no_number rfl b,
    fun first second weaker v => ⟨Constraint.check_min_of_weaker first second weaker,
      Constraint.check_max_of_weaker second first weaker⟩, fun first second => ?_⟩
  · -- NaN has no value to compare
    rw [Ne, least number]
    rintro ⟨q, p, bound, value, -⟩
    obtain rfl | rfl := nan
    · cases value
    · cases bound
  · rw [Ne, greatest number]
    rintro ⟨p, q, value, bound, -⟩
    obtain rfl | rfl := nan
    · cases value
    · cases bound
  · rw [← Option.not_isSome_iff_eq_none, Value.isSome_asNumber?_iff, integer, float]
    simp
  · rw [← not_le, ← Constraint.exists_between_iff first second]
    simp only [not_exists, not_and]

/-- The double whose value is `2 ^ 53`. -/
def largeDouble : Number := .double (.finite false 4503599627370496 1075)

theorem value?_largeDouble : largeDouble.value? = some ((9007199254740992 : ℚ) : WithTop ℚ) := by
  have twice : (2 : ℚ) ^ 1075 / 2 ^ 1074 = 2 := by
    rw [pow_succ, mul_div_cancel_left₀ _ (pow_ne_zero _ two_ne_zero)]
  have whole : ((Double.signed false 4503599627370496 : Int) : ℚ) = 4503599627370496 := by
    norm_num [Double.signed]
  simp only [largeDouble, Number.value?, Double.value?]
  rw [whole, mul_div_assoc, twice]
  norm_num

/-- The integer after `2 ^ 53`, which every rounding to a double would take for `2 ^ 53` itself, is
above that double, and the two bounds together refuse every number. -/
theorem largeDouble_refuses_next :
    (Constraint.max (.number largeDouble)).check (.int 9007199254740993) ≠ .ok none ∧
      (Constraint.max (.number largeDouble)).check (.int 9007199254740992) = .ok none ∧
      ∀ v x, v.asNumber? = some x →
        ¬((Constraint.min (.number (.int 9007199254740993))).check v = .ok none ∧
          (Constraint.max (.number largeDouble)).check v = .ok none) := by
  obtain ⟨exact, -, -, -, -, -, crossed⟩ := bounds_compare_exactly
  have next : (Number.int 9007199254740993).value? = some ((9007199254740993 : ℚ) : WithTop ℚ) := by
    norm_num [Number.value?]
  have same : (Number.int 9007199254740992).value? = some ((9007199254740992 : ℚ) : WithTop ℚ) := by
    norm_num [Number.value?]
  have apart : ((9007199254740992 : ℚ) : ExtendedRational) < (9007199254740993 : ℚ) :=
    WithBot.coe_lt_coe.mpr (WithTop.coe_lt_coe.mpr (by norm_num))
  refine ⟨fun passed => ?_, ?_, (crossed next value?_largeDouble).mpr apart⟩
  · obtain ⟨p, q, value, bound, within⟩ := (exact rfl).2.mp passed
    obtain rfl := Option.some.inj (value.symm.trans next)
    obtain rfl := Option.some.inj (bound.symm.trans value?_largeDouble)
    exact not_le.mpr apart within
  · exact (exact rfl).2.mpr ⟨_, _, same, value?_largeDouble, le_rfl⟩

end DataContract
