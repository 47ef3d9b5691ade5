/-
Decimal digits of a double.

* `Double.shortest` — the fewest digits that read back as the same double, and of those the
  nearest to its value;
* `Double.fixedDigits`, `Double.leadingDigits` — rounding to a number of places or of significant
  digits, a tie going to the even digit.
-/
import DataContract.Number.Double

namespace DataContract

/-- The decimal number `digits · 10 ^ exponent`. -/
structure Decimal where
  digits : Nat
  exponent : Int
  deriving DecidableEq, Inhabited

namespace Decimal

/-- The digits as text. -/
def text (d : Decimal) : List Char :=
  Nat.toDigits 10 d.digits

/-- The power of ten of the first digit. -/
def magnitude (d : Decimal) : Int :=
  d.exponent + (d.text.length : Int) - 1

/-- Drops zeros from the end of the digits, with the number of digits as fuel. -/
def dropZeros : Nat → Nat → Int → Decimal
  | 0, digits, exponent => ⟨digits, exponent⟩
  | fuel + 1, digits, exponent =>
    if digits ≠ 0 ∧ digits % 10 = 0 then dropZeros fuel (digits / 10) (exponent + 1)
    else ⟨digits, exponent⟩

/-- The same number with no zero at the end of its digits. -/
def trimmed (d : Decimal) : Decimal :=
  dropZeros d.text.length d.digits d.exponent

end Decimal

namespace Double

/-- The least `j` with `num · 10 ^ j ≥ den`, searched upwards through `fuel` steps. -/
def leadingZeros (num den : Nat) : Nat → Nat
  | 0 => 0
  | fuel + 1 => if den ≤ num then 0 else leadingZeros (num * 10) den fuel + 1

/-- The power of ten of the first digit of `num / den`, for a positive quotient of units. -/
def decimalMagnitude (num den : Nat) : Int :=
  if den ≤ num then ((Nat.toDigits 10 (num / den)).length : Int) - 1
  else -(leadingZeros num den 400 : Int)

/-- The quotient `num / den · 10 ^ -exponent` as a pair of naturals. -/
def scaledBy (num den : Nat) (exponent : Int) : Nat × Nat :=
  if exponent ≥ 0 then (num, den * Nat.pow 10 exponent.toNat)
  else (num * Nat.pow 10 (-exponent).toNat, den)

/-- The multiple of `10 ^ exponent` nearest to the value among its two neighbours that lie in the
interval of reals rounding to the double; the three naturals are the value and the two ends in
quarter units. -/
def gridHit? (value low high : Nat) (closed : Bool) (exponent : Int) : Option Nat :=
  let den := 4 * unitsPerOne
  let (v, d) := scaledBy value den exponent
  let (l, _) := scaledBy low den exponent
  let (h, _) := scaledBy high den exponent
  let below := v / d
  let inside (n : Nat) : Bool :=
    if closed then l ≤ n * d && n * d ≤ h else l < n * d && n * d < h
  match inside below, inside (below + 1) with
  | true, true =>
    let toLower := v - below * d
    let toUpper := (below + 1) * d - v
    if toLower < toUpper then some below
    else if toUpper < toLower then some (below + 1)
    else if below % 2 = 0 then some below else some (below + 1)
  | true, false => some below
  | false, true => some (below + 1)
  | false, false => none

/-- Tries one digit more each time until a decimal of that many digits reads back. -/
def shortestFrom (value low high : Nat) (closed : Bool) (magnitude : Int) :
    Nat → Nat → Option Decimal
  | 0, _ => none
  | fuel + 1, count =>
    let exponent := magnitude - (count : Int) + 1
    match gridHit? value low high closed exponent with
    | some digits =>
      if digits = 0 then shortestFrom value low high closed magnitude fuel (count + 1)
      else some (Decimal.trimmed ⟨digits, exponent⟩)
    | none => shortestFrom value low high closed magnitude fuel (count + 1)

/-- The fewest digits that read back as `mantissa · 2 ^ shift` units, and of those the nearest.
Below a power of two the neighbouring double is only half as far away. -/
def shortest (mantissa shift : Nat) : Decimal :=
  if mantissa = 0 then ⟨0, 0⟩
  else
    let value := 4 * (mantissa <<< shift)
    let half := 2 <<< shift
    let low := if mantissa = Nat.pow 2 52 ∧ shift ≠ 0 then value - half / 2 else value - half
    let magnitude := decimalMagnitude (mantissa <<< shift) unitsPerOne
    (shortestFrom value low (value + half) (mantissa % 2 = 0) magnitude 17 1).getD ⟨0, 0⟩

/-- The value in units rounded to `places` decimal places, as a multiple of `10 ^ -places`. -/
def fixedDigits (units places : Nat) : Nat :=
  divideToEven (units * Nat.pow 10 places) unitsPerOne

/-- The value in units rounded to `count` significant digits, at least one. -/
def leadingDigits (units count : Nat) : Decimal :=
  if units = 0 then ⟨0, 0⟩
  else
    let exponent := decimalMagnitude units unitsPerOne - (count : Int) + 1
    let (n, d) := scaledBy units unitsPerOne exponent
    let digits := divideToEven n d
    if digits = Nat.pow 10 count then ⟨digits / 10, exponent + 1⟩ else ⟨digits, exponent⟩

end Double

end DataContract
