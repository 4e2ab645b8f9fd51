import KindLex.Binary64.Nearest
import Mathlib.Data.Nat.Dist
import Mathlib.Tactic.Ring

/-!
# What a fraction rounds to

The magnitudes are counted bit by bit from the highest, and no further than to infinity.  Here the
midpoints between one magnitude and the next are in order, so counting finds the last one that the
fraction is beyond, and what it stops at is the nearest magnitude there is.

* **`isNaN_ofDecimal`**, **`isNegative_ofDecimal`**: a decimal rounds to a number that is not
  negative.
* **`lt_nearestMagnitude_iff`**: the magnitudes below the nearest are those that the fraction is
  beyond.
* **`dist_nearestMagnitude_le`**: no magnitude is nearer to a fraction than the finite one that it
  rounds to.
* **`nearestMagnitude_eq_infinity_iff`**: where the finite magnitudes end.
-/

namespace KindLex.Binary64

-- ── No sign, and always a number ────────────────────────────────────────────────────

/-- Counting stays where it starts or ends right above something that has the property. -/
theorem countUp_eq_or (holds : Nat → Bool) (bits low : Nat) :
    countUp holds bits low = low ∨ holds (countUp holds bits low - 1) = true := by
  induction bits generalizing low with
  | zero => exact Or.inl rfl
  | succ bits ih =>
      by_cases hholds : holds (low + Nat.pow 2 bits - 1) = true
      · rw [countUp, if_pos hholds]
        rcases ih (low + Nat.pow 2 bits) with h | h
        · rw [h]
          exact Or.inr hholds
        · exact Or.inr h
      · rw [countUp, if_neg hholds]
        exact ih low

theorem nearestMagnitude_le_infinity (num den : Nat) : nearestMagnitude num den ≤ infinity := by
  rcases countUp_eq_or (fun m => m < infinity && isBeyond num den m) 63 0 with h | h
  · rw [nearestMagnitude, h]
    exact Nat.zero_le _
  · rw [Bool.and_eq_true, decide_eq_true_eq] at h
    rw [nearestMagnitude]
    omega

/-- The bits of a rounded fraction are its magnitude. -/
theorem toNat_bits_nearest (num den : Nat) :
    (nearest num den).bits.toNat = nearestMagnitude num den := by
  have hle := nearestMagnitude_le_infinity num den
  have hinfinity : infinity < Nat.pow 2 64 := by decide
  rw [nearest, UInt64.toNat_ofNat']
  exact Nat.mod_eq_of_lt (Nat.lt_of_le_of_lt hle hinfinity)

theorem isNegative_ofDecimal (d : Decimal) : (ofDecimal d).isNegative = false := by
  have hle := nearestMagnitude_le_infinity d.numerator d.denominator
  have hinfinity : infinity < Nat.pow 2 63 := by decide
  rw [ofDecimal, isNegative, toNat_bits_nearest]
  exact decide_eq_false (by omega)

theorem isNaN_ofDecimal (d : Decimal) : (ofDecimal d).isNaN = false := by
  have hle := nearestMagnitude_le_infinity d.numerator d.denominator
  rw [ofDecimal, isNaN, magnitude, toNat_bits_nearest]
  exact decide_eq_false (Nat.not_lt.mpr (Nat.le_trans (Nat.mod_le _ _) hle))

-- ── Magnitudes in units ─────────────────────────────────────────────────────────────

/-- How many units make one. -/
def perOne : Nat := Nat.pow 2 1074

theorem units_eq (m : Nat) :
    units m = (if m < 2 ^ 52 then m else 2 ^ 52 + m % 2 ^ 52) * 2 ^ (m / 2 ^ 52 - 1) :=
  rfl

/-- From one magnitude to the next it is one step of the scale. -/
theorem units_succ (m : Nat) : units (m + 1) = units m + 2 ^ scale m := by
  have hscale : scale m = m / 2 ^ 52 - 1 := rfl
  rw [units_eq, units_eq, hscale]
  rcases Nat.lt_or_ge m (2 ^ 52) with hsmall | hlarge
  · -- below the first power of two all scales are 0
    have hnext : (m + 1) / 2 ^ 52 - 1 = 0 := by omega
    have hthis : m / 2 ^ 52 - 1 = 0 := by omega
    have hsig : (if m + 1 < 2 ^ 52 then m + 1 else 2 ^ 52 + (m + 1) % 2 ^ 52) = m + 1 := by
      split <;> omega
    rw [hnext, hthis, hsig, if_pos hsmall, Nat.pow_zero, Nat.mul_one, Nat.mul_one]
  · rw [if_neg (Nat.not_lt.mpr hlarge), if_neg (by omega)]
    by_cases hlast : (m + 1) % 2 ^ 52 = 0
    · -- the last significand of a scale, and the first one of the scale above it
      have hnext : (m + 1) / 2 ^ 52 - 1 = m / 2 ^ 52 - 1 + 1 := by omega
      have hsig : 2 ^ 52 * 2 = 2 ^ 52 + m % 2 ^ 52 + 1 := by omega
      calc (2 ^ 52 + (m + 1) % 2 ^ 52) * 2 ^ ((m + 1) / 2 ^ 52 - 1)
          = 2 ^ 52 * 2 * 2 ^ (m / 2 ^ 52 - 1) := by rw [hlast, hnext, pow_succ]; ring
        _ = (2 ^ 52 + m % 2 ^ 52) * 2 ^ (m / 2 ^ 52 - 1) + 2 ^ (m / 2 ^ 52 - 1) := by
            rw [hsig, Nat.add_mul, Nat.one_mul]
    · have hnext : (m + 1) / 2 ^ 52 - 1 = m / 2 ^ 52 - 1 := by omega
      have hsig : 2 ^ 52 + (m + 1) % 2 ^ 52 = 2 ^ 52 + m % 2 ^ 52 + 1 := by omega
      rw [hnext, hsig, Nat.add_mul, Nat.one_mul]

/-- The order of magnitudes is that of the numbers. -/
theorem units_strictMono : StrictMono units :=
  strictMono_nat_of_lt_succ fun m => by
    rw [units_succ]
    exact Nat.lt_add_of_pos_right (Nat.two_pow_pos _)

/-- A fraction is beyond a magnitude if it is nearer to the next one, or on the midpoint and the
    significand is odd. -/
theorem isBeyond_iff {num den m : Nat} :
    isBeyond num den m = true ↔
      den * (units m + units (m + 1)) < 2 * (num * perOne) ∨
        den * (units m + units (m + 1)) = 2 * (num * perOne) ∧ significand m % 2 = 1 := by
  have hmidpoint : den * (2 * significand m + 1) * Nat.pow 2 (scale m) =
      den * (units m + units (m + 1)) := by
    have hunits : units m = significand m * 2 ^ scale m := rfl
    rw [units_succ, hunits]
    show den * (2 * significand m + 1) * 2 ^ scale m = _
    ring
  have hfraction : num * Nat.pow 2 1075 = 2 * (num * perOne) := by
    have hpow : Nat.pow 2 1075 = 2 * perOne := by decide +kernel
    rw [hpow, Nat.mul_left_comm]
  rw [isBeyond, hmidpoint, hfraction, Bool.or_eq_true, Bool.and_eq_true, decide_eq_true_eq, beq_iff_eq,
    beq_iff_eq]

/-- What is beyond a magnitude is beyond those below it. -/
theorem isBeyond_of_le {num den m n : Nat} (hden : 0 < den) (h : isBeyond num den n = true)
    (hle : m ≤ n) : isBeyond num den m = true := by
  rcases Nat.eq_or_lt_of_le hle with rfl | hlt
  · exact h
  · have hbelow : units m < units n := units_strictMono hlt
    have hnext : units (m + 1) < units (n + 1) := units_strictMono (Nat.succ_lt_succ hlt)
    have hmidpoint : den * (units m + units (m + 1)) < den * (units n + units (n + 1)) :=
      Nat.mul_lt_mul_of_pos_left (Nat.add_lt_add hbelow hnext) hden
    rw [isBeyond_iff] at h ⊢
    left
    rcases h with h | ⟨h, -⟩ <;> omega

-- ── Counting finds the nearest ──────────────────────────────────────────────────────

/-- Counting up finds where a property stops, if it goes on below wherever it holds. -/
theorem lt_countUp_iff {holds : Nat → Bool}
    (hdown : ∀ m n, m ≤ n → holds n = true → holds m = true) {bits low : Nat}
    (hlow : ∀ m < low, holds m = true) (hhigh : holds (low + 2 ^ bits - 1) = false) (m : Nat) :
    m < countUp holds bits low ↔ holds m = true := by
  induction bits generalizing low with
  | zero =>
      refine ⟨hlow m, fun hm => ?_⟩
      by_contra hge
      have hstop : holds low = true := hdown low m (Nat.not_lt.mp hge) hm
      rw [Nat.pow_zero, Nat.add_sub_cancel, hstop] at hhigh
      contradiction
  | succ bits ih =>
      have hpow : Nat.pow 2 bits = 2 ^ bits := rfl
      rw [countUp, hpow]
      have hpos : 0 < 2 ^ bits := Nat.two_pow_pos bits
      by_cases hmid : holds (low + 2 ^ bits - 1) = true
      · rw [if_pos hmid]
        refine ih (fun m hm => hdown m _ (by omega) hmid) ?_
        rwa [Nat.add_assoc, ← Nat.two_mul, ← Nat.pow_succ']
      · rw [if_neg hmid]
        exact ih hlow (Bool.eq_false_iff.mpr hmid)

/-- **The magnitudes below the nearest one are those that the fraction is beyond.** -/
theorem lt_nearestMagnitude_iff {num den : Nat} (hden : 0 < den) (m : Nat) :
    m < nearestMagnitude num den ↔ m < infinity ∧ isBeyond num den m = true := by
  have hiff : ∀ n, (n < infinity && isBeyond num den n) = true ↔
      n < infinity ∧ isBeyond num den n = true := by
    intro n
    rw [Bool.and_eq_true, decide_eq_true_eq]
  rw [nearestMagnitude, lt_countUp_iff ?_ (fun n hn => absurd hn (Nat.not_lt_zero n)) ?_, hiff]
  · intro a b hle hb
    rw [hiff] at hb ⊢
    exact ⟨Nat.lt_of_le_of_lt hle hb.1, isBeyond_of_le hden hb.2 hle⟩
  · refine Bool.eq_false_iff.mpr fun h => absurd ((hiff _).mp h).1 ?_
    decide

/-- **No magnitude is nearer to a fraction than the finite one that it rounds to.** -/
theorem dist_nearestMagnitude_le {num den : Nat} (hden : 0 < den)
    (hfinite : nearestMagnitude num den < infinity) (m : Nat) :
    Nat.dist (den * units (nearestMagnitude num den)) (num * perOne) ≤
      Nat.dist (den * units m) (num * perOne) := by
  have hiff : ∀ k, k < nearestMagnitude num den ↔ k < infinity ∧ isBeyond num den k = true :=
    lt_nearestMagnitude_iff hden
  generalize nearestMagnitude num den = n at hfinite hiff
  have hmono : ∀ {a b : Nat}, a ≤ b → den * units a ≤ den * units b := fun hle =>
    Nat.mul_le_mul_left den (units_strictMono.monotone hle)
  rcases Nat.lt_trichotomy m n with hlt | rfl | hgt
  · -- the fraction is not before the midpoint below `n`
    obtain ⟨below, rfl⟩ : ∃ below, n = below + 1 := Nat.exists_eq_add_one_of_ne_zero (by omega)
    have hbeyond := isBeyond_iff.mp ((hiff below).mp (Nat.lt_succ_self below)).2
    have hm := hmono (Nat.lt_add_one_iff.mp hlt)
    have hn := hmono (Nat.le_add_right below 1)
    rw [Nat.mul_add] at hbeyond
    unfold Nat.dist
    omega
  · exact Nat.le_refl _
  · -- and not behind the one above it
    have hwithin : ¬ isBeyond num den n = true := fun h =>
      Nat.lt_irrefl n ((hiff n).mpr ⟨hfinite, h⟩)
    have hm := hmono (Nat.add_one_le_iff.mpr hgt)
    have hn := hmono (Nat.le_add_right n 1)
    rw [isBeyond_iff, Nat.mul_add] at hwithin
    unfold Nat.dist
    omega

/-- **A fraction rounds to infinity exactly from the midpoint of the greatest finite double and
    `2 ^ 1024` on.** -/
theorem nearestMagnitude_eq_infinity_iff {num den : Nat} (hden : 0 < den) :
    nearestMagnitude num den = infinity ↔ den * (2 ^ 1024 - 2 ^ 970) ≤ num := by
  have hreached : nearestMagnitude num den = infinity ↔
      infinity - 1 < nearestMagnitude num den := by
    have hle := nearestMagnitude_le_infinity num den
    have hpos : 0 < infinity := by decide
    omega
  have hodd : significand (infinity - 1) % 2 = 1 := by decide
  have hlast : infinity - 1 < infinity := by decide
  have hsum : units (infinity - 1) + units (infinity - 1 + 1) =
      (2 ^ 1024 - 2 ^ 970) * (2 * perOne) := by
    decide +kernel
  have hpos : 0 < 2 * perOne := by decide +kernel
  rw [hreached, lt_nearestMagnitude_iff hden, isBeyond_iff, hsum, ← Nat.mul_assoc,
    Nat.mul_left_comm 2 num, Nat.mul_lt_mul_right hpos, Nat.mul_left_inj (Nat.ne_of_gt hpos), hodd]
  omega

-- ── Decimals ────────────────────────────────────────────────────────────────────────

theorem denominator_pos (d : Decimal) : 0 < d.denominator :=
  Nat.pow_pos (by decide)

/-- A decimal rounds to the magnitude nearest to its fraction. -/
theorem magnitude_ofDecimal (d : Decimal) :
    (ofDecimal d).magnitude = nearestMagnitude d.numerator d.denominator := by
  have hle := nearestMagnitude_le_infinity d.numerator d.denominator
  have hinfinity : infinity < Nat.pow 2 63 := by decide
  rw [ofDecimal, magnitude, toNat_bits_nearest]
  exact Nat.mod_eq_of_lt (Nat.lt_of_le_of_lt hle hinfinity)

theorem isInfinite_ofDecimal_iff (d : Decimal) :
    (ofDecimal d).isInfinite = true ↔ d.denominator * (2 ^ 1024 - 2 ^ 970) ≤ d.numerator := by
  rw [isInfinite, beq_iff_eq, magnitude_ofDecimal,
    nearestMagnitude_eq_infinity_iff (denominator_pos d)]

/-- No double is nearer to a decimal than the finite one that it rounds to. -/
theorem dist_ofDecimal_le {d : Decimal} (hfinite : (ofDecimal d).isInfinite = false) (m : Nat) :
    Nat.dist (d.denominator * units (ofDecimal d).magnitude) (d.numerator * perOne) ≤
      Nat.dist (d.denominator * units m) (d.numerator * perOne) := by
  rw [isInfinite, beq_eq_false_iff_ne, magnitude_ofDecimal] at hfinite
  rw [magnitude_ofDecimal]
  have hle := nearestMagnitude_le_infinity d.numerator d.denominator
  exact dist_nearestMagnitude_le (denominator_pos d) (Nat.lt_of_le_of_ne hle hfinite) m

end KindLex.Binary64
