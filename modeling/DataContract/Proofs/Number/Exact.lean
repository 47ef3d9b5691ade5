/-
The exact values of numbers.

Every number but NaN has a value on the line of the rational numbers with both ends: an integer
stands for itself, a finite double for `± mantissa · 2 ^ shift / 2 ^ 1074`. The order in which
bounds are compared is the order of these values (`Number.le_eq_true_iff`): an integer is never
rounded to a double, however large it is.
-/
import Mathlib
import DataContract.Number.Double

namespace DataContract

/-- A rational number, or an end of their line. -/
abbrev ExtendedRational := WithBot (WithTop ℚ)

namespace Double

theorem unitsPerOne_pos : 0 < unitsPerOne := by
  unfold unitsPerOne
  -- the power itself is never computed
  generalize 1074 = exponent
  exact Nat.two_pow_pos exponent

theorem cast_unitsPerOne : (unitsPerOne : ℚ) = 2 ^ 1074 := by
  unfold unitsPerOne
  generalize 1074 = exponent
  rw [Nat.pow_eq, Nat.cast_pow, Nat.cast_ofNat]

/-- The exact value of a double; NaN has none. -/
def value? : Double → Option ExtendedRational
  | .nan => none
  | .infinite true => some ⊥
  | .infinite false => some ⊤
  | .finite negative mantissa shift =>
    some ((signed negative mantissa * 2 ^ shift / 2 ^ 1074 : ℚ) : WithTop ℚ)

end Double

namespace Number

/-- The exact value of a number; NaN has none. -/
def value? : Number → Option ExtendedRational
  | .int n => some ((n : ℚ) : WithTop ℚ)
  | .double x => x.value?

end Number

namespace LinePoint

/-- The value that a point of the line is. -/
def value : LinePoint → ExtendedRational
  | .bottom => ⊥
  | .finite units => ((units / Double.unitsPerOne : ℚ) : WithTop ℚ)
  | .top => ⊤

/-- The line is ordered by values. -/
theorem le_eq_true_iff {p q : LinePoint} : p.le q = true ↔ p.value ≤ q.value := by
  cases p with
  | bottom => exact iff_of_true rfl bot_le
  | top =>
    cases q with
    | bottom => exact iff_of_false Bool.false_ne_true (not_le.mpr bot_lt_top)
    | top => exact iff_of_true rfl le_rfl
    | finite b =>
      exact iff_of_false Bool.false_ne_true
        (not_le.mpr (WithBot.coe_lt_coe.mpr (WithTop.coe_lt_top _)))
  | finite a =>
    cases q with
    | bottom => exact iff_of_false Bool.false_ne_true (not_le.mpr (WithBot.bot_lt_coe _))
    | top => exact iff_of_true rfl le_top
    | finite b =>
      have unit : (0 : ℚ) < Double.unitsPerOne := Nat.cast_pos.mpr Double.unitsPerOne_pos
      simp only [le, value, decide_eq_true_eq, WithBot.coe_le_coe, WithTop.coe_le_coe,
        div_le_div_iff_of_pos_right unit, Int.cast_le]

end LinePoint

namespace Number

theorem cast_signed (negative : Bool) (mantissa shift : Nat) :
    (Double.signed negative (mantissa <<< shift) : ℚ) =
      Double.signed negative mantissa * 2 ^ shift := by
  rw [Nat.shiftLeft_eq]
  cases negative <;> simp [Double.signed]

/-- The value of a number is that of the point where it stands. -/
theorem value?_eq (n : Number) : n.value? = n.point?.map LinePoint.value := by
  cases n with
  | int n =>
    have unit : (Double.unitsPerOne : ℚ) ≠ 0 :=
      Nat.cast_ne_zero.mpr Double.unitsPerOne_pos.ne'
    simp only [value?, point?, Option.map_some, LinePoint.value, Int.cast_mul, Int.cast_natCast,
      mul_div_cancel_right₀ _ unit]
  | double x =>
    cases x with
    | nan => rfl
    | infinite negative => cases negative <;> rfl
    | finite negative mantissa shift =>
      simp only [value?, Double.value?, point?, Double.point?, Option.map_some, LinePoint.value,
        cast_signed, Double.cast_unitsPerOne]

theorem value?_eq_none_iff {n : Number} : n.value? = none ↔ n = .double .nan := by
  cases n with
  | int n => simp [value?]
  | double x =>
    cases x with
    | nan => simp [value?, Double.value?]
    | infinite negative => cases negative <;> simp [value?, Double.value?]
    | finite negative mantissa shift => simp [value?, Double.value?]

/-- The order of numbers is the order of their exact values; NaN is in no order. -/
theorem le_eq_true_iff {m n : Number} :
    m.le n = true ↔ ∃ p q, m.value? = some p ∧ n.value? = some q ∧ p ≤ q := by
  rw [le, value?_eq, value?_eq]
  cases m.point? with
  | none => simp
  | some p =>
    cases n.point? with
    | none => simp
    | some q => simp [LinePoint.le_eq_true_iff]

theorem le_eq_true_iff_of_value {m n : Number} {p q : ExtendedRational} (first : m.value? = some p)
    (second : n.value? = some q) : m.le n = true ↔ p ≤ q := by
  rw [le_eq_true_iff, first, second]
  simp

/-! ### Equality -/

/-- Every number but NaN equals itself. -/
theorem beq_self {n : Number} (h : n ≠ .double .nan) : n.beq n = true := by
  rw [beq]
  cases point : n.point? with
  | some p => exact beq_self_eq_true p
  | none =>
    have valueless : n.value? = none := by rw [value?_eq, point, Option.map_none]
    exact absurd (value?_eq_none_iff.mp valueless) h

/-- Units are a multiple of the unit exactly if they leave no rest. -/
theorem mul_eq_signed_iff {negative : Bool} {units unit : Nat} {n : Int} (positive : 0 < unit) :
    n * unit = Double.signed negative units ↔
      units % unit = 0 ∧ Double.signed negative (units / unit) = n := by
  constructor
  · intro same
    have size : n.natAbs * unit = units := by
      have := congrArg Int.natAbs same
      rw [Int.natAbs_mul, Int.natAbs_natCast] at this
      cases negative <;> simpa [Double.signed] using this
    subst size
    rw [Nat.mul_mod_left, Nat.mul_div_cancel _ positive]
    refine ⟨rfl, ?_⟩
    have unit' : (unit : Int) ≠ 0 := Int.natCast_ne_zero.mpr positive.ne'
    refine mul_right_cancel₀ unit' (Eq.trans ?_ same.symm)
    cases negative <;> simp [Double.signed]
  · rintro ⟨divides, rfl⟩
    have whole := Nat.div_mul_cancel (Nat.dvd_of_mod_eq_zero divides)
    cases negative
    · exact congrArg Int.ofNat whole
    · simp only [Double.signed, if_true, Int.neg_mul]
      exact congrArg (fun units : Nat => -(units : Int)) whole

/-- A double equals an integer exactly if that is its value. -/
theorem beq_int_double_iff {n : Int} {x : Double} :
    (Number.int n).beq (.double x) = true ↔ x.toInt? = some n := by
  cases x with
  | nan => exact iff_of_false Bool.false_ne_true nofun
  | infinite negative => cases negative <;> exact iff_of_false Bool.false_ne_true nofun
  | finite negative mantissa shift =>
    show (LinePoint.finite _ == LinePoint.finite _) = true ↔ _
    rw [beq_iff_eq, LinePoint.finite.injEq, mul_eq_signed_iff Double.unitsPerOne_pos]
    simp only [Double.toInt?]
    split
    · next divides => simp [divides]
    · next rest => simp [rest]

end Number

end DataContract
