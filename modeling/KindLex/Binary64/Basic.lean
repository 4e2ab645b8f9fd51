/-!
# Double-precision numbers

A number is sixty-four bits: a sign, and a magnitude of sixty-three.  Magnitudes count the doubles
upwards from zero, so the order of magnitudes is the order of the numbers, the infinite magnitude
comes after all finite ones, and what is beyond it is not a number.

A finite magnitude stands for `significand * 2 ^ scale` units, a unit being `2 ^ -1074`, the least
positive double.  Powers are written with `Nat.pow`, which is the same function whatever instances
are at hand.
-/

namespace KindLex

/-- A double-precision number, as its sixty-four bits. -/
structure Binary64 where
  bits : UInt64
  deriving DecidableEq

namespace Binary64

/-- The magnitude of the infinities. -/
def infinity : Nat := 2047 * Nat.pow 2 52

/-- Whether the sign bit is set. -/
def isNegative (x : Binary64) : Bool :=
  Nat.pow 2 63 ≤ x.bits.toNat

/-- The bits below the sign. -/
def magnitude (x : Binary64) : Nat :=
  x.bits.toNat % Nat.pow 2 63

/-- Whether the bits stand for no number. -/
def isNaN (x : Binary64) : Bool :=
  infinity < x.magnitude

/-- Whether the number is infinite. -/
def isInfinite (x : Binary64) : Bool :=
  x.magnitude == infinity

/-- Equality as numbers: no bits that stand for no number equal any, and the two zeros are equal. -/
def numEq (x y : Binary64) : Bool :=
  !x.isNaN && !y.isNaN && (x.bits == y.bits || (x.magnitude == 0 && y.magnitude == 0))

/-- The whole number that a magnitude scales by a power of two. -/
def significand (m : Nat) : Nat :=
  if m < Nat.pow 2 52 then m else Nat.pow 2 52 + m % Nat.pow 2 52

/-- The power of two that scales it. -/
def scale (m : Nat) : Nat :=
  m / Nat.pow 2 52 - 1

/-- A finite magnitude in units of `2 ^ -1074`. -/
def units (m : Nat) : Nat :=
  significand m * Nat.pow 2 (scale m)

end Binary64

end KindLex
