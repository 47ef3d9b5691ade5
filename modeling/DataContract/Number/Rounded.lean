/-
Numbers written with as many digits as are asked for.

A double is rounded on its exact value, a tie going to the even digit:

* `RoundedLayout.fixed` — so many places after the point;
* `RoundedLayout.scientific` — one digit before the point, so many after it, and an exponent;
* `RoundedLayout.general` — so many digits in all, positionally unless the first one stands below
  `10 ^ -4` or beyond the last, and without zeros at the end.
-/
import DataContract.Number.Text

namespace DataContract

/-- The layouts of a double that is rounded. -/
inductive RoundedLayout where
  | fixed
  | scientific
  | general
  deriving DecidableEq, Inhabited

namespace Double

/-- Digits on both sides of a point, which is dropped if nothing follows it and it is not kept. -/
def pointed (keepPoint : Bool) (whole fraction : List Char) : List Char :=
  if fraction.isEmpty && !keepPoint then whole else whole ++ '.' :: fraction

/-- A number of places, or of significant digits, with which every double is exact: all further
digits are zeros. -/
def exactDigits : Nat := 1074

/-- A value in units with so many places after the point. -/
def fixedText (units places : Nat) (keepPoint : Bool) : List Char :=
  let counted := min places exactDigits
  let digits := padZeros (counted + 1) (Nat.toDigits 10 (fixedDigits units counted))
  let whole := digits.length - counted
  pointed keepPoint (digits.take whole)
    (digits.drop whole ++ List.replicate (places - counted) '0')

/-- So many significant digits of a value in units, and the power of ten of the first. -/
def significant (units count : Nat) : List Char × Int :=
  if units = 0 then (List.replicate count '0', 0)
  else
    let counted := min count exactDigits
    let d := leadingDigits units counted
    (d.text ++ List.replicate (count - counted) '0', d.magnitude)

/-- Digits with a point after the first, and an exponent. -/
def withExponent (keepPoint : Bool) (digits : List Char) (magnitude : Int) : List Char :=
  pointed keepPoint (digits.take 1) (digits.drop 1) ++ 'e' :: exponentText 2 magnitude

/-- A value in units with so many digits after the point of the first, and an exponent. -/
def scientificText (units places : Nat) (keepPoint : Bool) : List Char :=
  let (digits, magnitude) := significant units (places + 1)
  withExponent keepPoint digits magnitude

/-- Digits the first of which stands at a power of ten, positionally. -/
def placed (keepPoint : Bool) (digits : List Char) (magnitude : Int) : List Char :=
  if magnitude < 0 then
    pointed keepPoint ['0'] (List.replicate (-magnitude - 1).toNat '0' ++ digits)
  else
    let whole := magnitude.toNat + 1
    pointed keepPoint (digits.take whole ++ List.replicate (whole - digits.length) '0')
      (digits.drop whole)

/-- A value in units with so many digits in all; zeros at the end are kept with the point. -/
def generalText (units count : Nat) (keepPoint : Bool) : List Char :=
  let count := max count 1
  let (digits, magnitude) := significant units count
  let trimmed := digits.take 1 ++ (((digits.drop 1).reverse.dropWhile (· = '0')).reverse)
  let shown := if keepPoint then digits else trimmed
  if -4 ≤ magnitude ∧ magnitude < count then placed keepPoint shown magnitude
  else withExponent keepPoint shown magnitude

/-- A double without its sign in a layout, with a precision; the point is kept on demand. -/
def roundedMagnitude (layout : RoundedLayout) (precision : Nat) (keepPoint : Bool) :
    Double → List Char
  | .nan => "nan".toList
  | .infinite _ => "inf".toList
  | .finite _ mantissa shift =>
    let units := mantissa <<< shift
    match layout with
    | .fixed => fixedText units precision keepPoint
    | .scientific => scientificText units precision keepPoint
    | .general => generalText units precision keepPoint

end Double

end DataContract
