import KindLex.Binary64.Basic
import KindLex.Decimal

/-!
# The nearest double

A fraction is rounded to the nearest double, a half to the one with even significand.  A magnitude
lies below the answer exactly when the fraction is beyond the midpoint between that magnitude and
the next one; the answer is found by counting the magnitudes of which this holds, bit by bit from
the highest.  A fraction beyond the last midpoint gives infinity.
-/

namespace KindLex.Binary64

/-- Whether the fraction rounds to something above the magnitude `m`.  The midpoint above `m` is
    `2 * significand + 1` half units of its scale, and a fraction on it goes up from an odd
    significand. -/
def isBeyond (num den m : Nat) : Bool :=
  let fraction := num * Nat.pow 2 1075
  let midpoint := den * (2 * significand m + 1) * Nat.pow 2 (scale m)
  midpoint < fraction || (midpoint == fraction && significand m % 2 == 1)

/-- Starting from `low`, how far a property holds of the numbers above it, given that it holds up
    to some point less than `2 ^ bits` away and of nothing from there on. -/
def countUp (holds : Nat → Bool) : (bits low : Nat) → Nat
  | 0,        low => low
  | bits + 1, low =>
      if holds (low + Nat.pow 2 bits - 1) then countUp holds bits (low + Nat.pow 2 bits)
      else countUp holds bits low

/-- The magnitude nearest to a fraction. -/
def nearestMagnitude (num den : Nat) : Nat :=
  countUp (fun m => m < infinity && isBeyond num den m) 63 0

/-- The double nearest to a fraction. -/
def nearest (num den : Nat) : Binary64 :=
  ⟨UInt64.ofNat (nearestMagnitude num den)⟩

/-- The double nearest to a decimal. -/
def ofDecimal (d : Decimal) : Binary64 :=
  nearest d.numerator d.denominator

/-- Whether a decimal rounds to the magnitude `m`: it is beyond every magnitude below and not
    beyond this one. -/
def roundsTo (d : Decimal) (m : Nat) : Bool :=
  (m == 0 || isBeyond d.numerator d.denominator (m - 1)) &&
    !isBeyond d.numerator d.denominator m

end KindLex.Binary64
