import KindLex.Binary64.Nearest

/-!
# The shortest decimal of a double

Of the decimals that round to a double, the shortest have the fewest digits, and of these the
nearest to the double is taken, the greater one if two are equally near.  It is enough to look at
the two neighbours of the double on the grid of one digit, then of two, and so on: where any point
of a grid rounds to the double, one of its neighbours on that grid does.
-/

namespace KindLex.Binary64

/-- The power of ten that the first digit of a positive finite magnitude counts.  The least
    magnitude has the power -324, so that many places make it a whole number. -/
def leadingPower (m : Nat) : Int :=
  ((Nat.toDigits 10 (units m * Nat.pow 10 324 / Nat.pow 2 1074)).length : Int) - 325

/-- A magnitude in steps of a power of ten, as a numerator and a denominator. -/
def stepsOf (m : Nat) (power : Int) : Nat × Nat :=
  (units m * Nat.pow 10 (-power).toNat, Nat.pow 2 1074 * Nat.pow 10 power.toNat)

/-- The neighbour of a magnitude on the grid of a power of ten that rounds to the magnitude; of two
    such neighbours the nearer, and the upper one of two that are equally near. -/
def onGrid? (m : Nat) (power : Int) : Option Decimal :=
  let (num, den) := stepsOf m power
  let below : Decimal := ⟨num / den, power⟩
  let above : Decimal := ⟨num / den + 1, power⟩
  match roundsTo below m, roundsTo above m with
  | true,  true  => some (if 2 * num < (2 * (num / den) + 1) * den then below else above)
  | true,  false => some below
  | false, true  => some above
  | false, false => none

/-- A magnitude as a decimal without any rounding. -/
def exactDecimal (m : Nat) : Decimal :=
  ⟨units m * Nat.pow 5 1074, -1074⟩

/-- The shortest decimal of a finite magnitude.  Seventeen digits are always enough; the exact
    decimal stands behind them. -/
def shortest (m : Nat) : Decimal :=
  if m = 0 then ⟨0, 0⟩
  else
    let found := (List.range 17).findSome? fun (n : Nat) => onGrid? m (leadingPower m - n)
    found.getD (exactDecimal m)

end KindLex.Binary64
