/-!
# Decimal numbers and their layout

A decimal is a whole coefficient and a power of ten.  Its layout is a choice between two forms: the
positional one, `digits.digits`, and the scientific one, a leading digit with the rest behind a
point and the exponent behind a mark.
-/

namespace KindLex

/-- The number `coefficient * 10 ^ exponent`. -/
structure Decimal where
  coefficient : Nat
  exponent    : Int
  deriving DecidableEq

namespace Decimal

/-- The numerator of a decimal as a fraction over `denominator`. -/
def numerator (d : Decimal) : Nat :=
  d.coefficient * Nat.pow 10 d.exponent.toNat

/-- The denominator of a decimal: a power of ten. -/
def denominator (d : Decimal) : Nat :=
  Nat.pow 10 (-d.exponent).toNat

/-- The value of a string of digits, the first one counting most. -/
def ofDigits (digits : List Char) : Nat :=
  digits.foldl (fun value c => 10 * value + (c.toNat - '0'.toNat)) 0

/-- The digits of the coefficient, the first one counting most. -/
def digits (d : Decimal) : List Char :=
  Nat.toDigits 10 d.coefficient

/-- The digits without the zeros at their end. -/
def significant (d : Decimal) : List Char :=
  (d.digits.reverse.dropWhile (· == '0')).reverse

/-- The power of ten that the first digit counts. -/
def leading (d : Decimal) : Int :=
  d.exponent + d.digits.length - 1

/-! ## Layout -/

/-- Where the positional form ends and how the scientific form marks its exponent. -/
structure Layout where
  /-- The least power of the first digit that is written positionally. -/
  least    : Int
  /-- The greatest power of the first digit that is written positionally. -/
  greatest : Int
  /-- What stands between the digits and the exponent. -/
  mark     : Char

/-- The digits with a point among them, and at least one digit on either side of it. -/
def positional (d : Decimal) : List Char :=
  if d.leading < 0 then
    ['0', '.'] ++ List.replicate (-d.leading - 1).toNat '0' ++ d.significant
  else
    let whole := d.leading.toNat + 1
    let fraction := d.significant.drop whole
    (d.significant.take whole).rightpad whole '0'
      ++ ['.'] ++ (if fraction.isEmpty then ['0'] else fraction)

/-- One digit, the others behind a point where there are any, and the exponent. -/
def scientific (mark : Char) (d : Decimal) : List Char :=
  let fraction := d.significant.drop 1
  d.significant.take 1
    ++ (if fraction.isEmpty then [] else '.' :: fraction)
    ++ [mark] ++ (toString d.leading).toList

/-- A decimal in the form that the layout calls for. -/
def layOut (layout : Layout) (d : Decimal) : List Char :=
  if layout.least ≤ d.leading ∧ d.leading ≤ layout.greatest then d.positional
  else d.scientific layout.mark

end Decimal

end KindLex
