/-
Double-precision numbers and exact comparison with integers.

A finite number is kept as `± mantissa · 2 ^ shift` in units of `2 ^ -1074`, the smallest
positive double, so that every question about its value is a question about integers:

* `Double.units` — the value as an integer number of those units;
* `Double.ofRatio` — the double nearest to a quotient, a tie going to the even mantissa;
* `Number.le`, `Number.beq` — the order of integers of any size and doubles together, with no
  rounding on either side and with NaN related to nothing.
-/

namespace DataContract

/-- A double-precision number. A finite one has the value `± mantissa · 2 ^ shift` units, with the
mantissa below `2 ^ 53` and the shift the least possible. -/
inductive Double where
  | nan
  | infinite (negative : Bool)
  | finite (negative : Bool) (mantissa shift : Nat)
  deriving DecidableEq, Inhabited

namespace Double

/-- How many units make one. -/
def unitsPerOne : Nat := Nat.pow 2 1074

/-- The integer `n` with the sign given. -/
def signed (negative : Bool) (n : Nat) : Int :=
  if negative then -(n : Int) else (n : Int)

/-- Positive zero. -/
def zero : Double := .finite false 0 0

/-- The quotient rounded to the nearest integer, a tie going to the even one. -/
def divideToEven (num den : Nat) : Nat :=
  let q := num / den
  let r := num % den
  if 2 * r < den then q
  else if den < 2 * r then q + 1
  else if q % 2 = 0 then q else q + 1

/-- The double whose value is nearest to `num / den` units; from the midpoint between the largest
double and the next power of two on, the infinite one. -/
def ofUnitsRatio (negative : Bool) (num den : Nat) : Double :=
  let whole := num / den
  let shift := Nat.log2 whole - 52
  let mantissa := divideToEven num (den <<< shift)
  let (mantissa, shift) :=
    if mantissa = Nat.pow 2 53 then (Nat.pow 2 52, shift + 1) else (mantissa, shift)
  if shift > 2045 then .infinite negative else .finite negative mantissa shift

/-- The double nearest to `num / den`. -/
def ofRatio (negative : Bool) (num den : Nat) : Double :=
  ofUnitsRatio negative (num * unitsPerOne) den

/-- The double nearest to `digits · 10 ^ exponent`. Exponents so large or small that the result is
infinite or zero whatever the digits are cut off first. -/
def ofDecimal (negative : Bool) (digits : Nat) (exponent : Int) : Double :=
  if digits = 0 then .finite negative 0 0
  else
    let magnitude : Int := (Nat.toDigits 10 digits).length + exponent
    if magnitude > 400 then .infinite negative
    else if magnitude < -400 then .finite negative 0 0
    else if exponent ≥ 0 then ofRatio negative (digits * Nat.pow 10 exponent.toNat) 1
    else ofRatio negative digits (Nat.pow 10 (-exponent).toNat)

/-- The double nearest to an integer. -/
def ofInt (n : Int) : Double :=
  ofRatio (n < 0) n.natAbs 1

/-- The double nearest to an integer number of units. -/
def ofUnits (n : Int) : Double :=
  ofUnitsRatio (n < 0) n.natAbs 1

/-- The sign, which zeros and infinities have too. -/
def isNegative : Double → Bool
  | .nan => false
  | .infinite negative => negative
  | .finite negative _ _ => negative

/-- The number with its sign turned. -/
def neg : Double → Double
  | .nan => .nan
  | .infinite negative => .infinite !negative
  | .finite negative mantissa shift => .finite (!negative) mantissa shift

/-- The integer that is the value, if there is one. -/
def toInt? : Double → Option Int
  | .finite negative mantissa shift =>
    let units := mantissa <<< shift
    if units % unitsPerOne = 0 then some (signed negative (units / unitsPerOne)) else none
  | _ => none

/-- Addition of finite numbers, rounded once. A sum that cancels is positive zero. -/
def add (x y : Double) : Double :=
  match x, y with
  | .nan, _ => .nan
  | _, .nan => .nan
  | .infinite a, .infinite b => if a = b then .infinite a else .nan
  | .infinite a, _ => .infinite a
  | _, .infinite b => .infinite b
  | .finite a m k, .finite b n l =>
    let sum := signed a (m <<< k) + signed b (n <<< l)
    if sum = 0 then .finite (a && b) 0 0 else ofUnits sum

/-- Multiplication by a natural number, rounded once. -/
def scale (x : Double) (n : Nat) : Double :=
  match x with
  | .nan => .nan
  | .infinite a => if n = 0 then .nan else .infinite a
  | .finite a m k => ofUnitsRatio a ((m <<< k) * n) 1

end Double

/-- A number as contracts bound it: an integer of any size or a double. -/
inductive Number where
  | int (value : Int)
  | double (value : Double)
  deriving DecidableEq, Inhabited

/-- A point of the number line with both ends, finite points counted in units of `2 ^ -1074`. -/
inductive LinePoint where
  | bottom
  | finite (units : Int)
  | top
  deriving DecidableEq

namespace LinePoint

/-- The order of the line. -/
def le : LinePoint → LinePoint → Bool
  | .bottom, _ => true
  | _, .top => true
  | .finite a, .finite b => decide (a ≤ b)
  | _, _ => false

end LinePoint

namespace Double

/-- Where a double stands on the line; NaN stands nowhere. -/
def point? : Double → Option LinePoint
  | .nan => none
  | .infinite true => some .bottom
  | .infinite false => some .top
  | .finite negative mantissa shift => some (.finite (signed negative (mantissa <<< shift)))

end Double

namespace Number

/-- Where a number stands on the line; NaN stands nowhere. -/
def point? : Number → Option LinePoint
  | .int n => some (.finite (n * Double.unitsPerOne))
  | .double x => x.point?

/-- The exact order: false whenever NaN is on either side. -/
def le (a b : Number) : Bool :=
  match a.point?, b.point? with
  | some p, some q => p.le q
  | _, _ => false

/-- Equality of values: `1` and `1.0` are equal, both zeros are, and NaN equals nothing. -/
def beq (a b : Number) : Bool :=
  match a.point?, b.point? with
  | some p, some q => p == q
  | _, _ => false

end Number

end DataContract
