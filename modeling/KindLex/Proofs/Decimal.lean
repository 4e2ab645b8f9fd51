import KindLex.Decimal
import Mathlib.Algebra.Order.Field.Power
import Mathlib.Data.List.DropRight
import Mathlib.Tactic.Positivity
import Mathlib.Tactic.Ring

/-!
# What the layout of a decimal says

A decimal stands for a rational number, and its layout is digits with a point or with an exponent.
The digits are those of the coefficient without the zeros at their end, and where the point is put
makes up for the zeros: both layouts write the number that the decimal stands for.

* **`pow_leading_le_value`**, **`value_lt_pow_leading`**: the power that the first digit counts is
  the greatest one that is not above the number.
* **`exists_pointed`**: the positional layout.
* **`exists_marked`**: the scientific one.
-/

namespace KindLex.Decimal

/-- The number that a decimal stands for. -/
def value (d : Decimal) : ℚ :=
  d.coefficient * 10 ^ d.exponent

theorem ten_ne_zero : (10 : ℚ) ≠ 0 := by
  norm_num

/-- As a fraction a decimal is the same number. -/
theorem numerator_div_denominator (d : Decimal) : (d.numerator : ℚ) / d.denominator = d.value := by
  have hnumerator : (d.numerator : ℚ) = d.coefficient * 10 ^ d.exponent.toNat := by
    show ((d.coefficient * 10 ^ d.exponent.toNat : Nat) : ℚ) = _
    push_cast
    rfl
  have hdenominator : (d.denominator : ℚ) = 10 ^ (-d.exponent).toNat := by
    show ((10 ^ (-d.exponent).toNat : Nat) : ℚ) = _
    push_cast
    rfl
  rw [hnumerator, hdenominator, mul_div_assoc, value, ← zpow_natCast, ← zpow_natCast,
    ← zpow_sub₀ ten_ne_zero]
  congr 2
  omega

/-- Zeros at the end of the coefficient may go to the exponent. -/
theorem value_mul_pow (coefficient n : Nat) (exponent : Int) :
    value ⟨coefficient * 10 ^ n, exponent⟩ = value ⟨coefficient, exponent + n⟩ := by
  show ((coefficient * 10 ^ n : Nat) : ℚ) * 10 ^ exponent = coefficient * 10 ^ (exponent + n)
  rw [zpow_add₀ ten_ne_zero, zpow_natCast]
  push_cast
  ring

-- ── Digits ──────────────────────────────────────────────────────────────────────────

theorem ofDigits_eq_ofDigitChars (digits : List Char) :
    ofDigits digits = Nat.ofDigitChars 10 digits 0 :=
  Nat.ofDigitChars_eq_foldl.symm

theorem ofDigits_append (front back : List Char) :
    ofDigits (front ++ back) = ofDigits front * 10 ^ back.length + ofDigits back := by
  simp only [ofDigits_eq_ofDigitChars, Nat.ofDigitChars_append]
  rw [Nat.ofDigitChars_eq_ofDigitChars_zero, Nat.mul_comm]

theorem ofDigits_zeros (n : Nat) : ofDigits (List.replicate n '0') = 0 := by
  rw [ofDigits_eq_ofDigitChars, Nat.ofDigitChars_replicate_zero, Nat.mul_zero]

/-- Zeros in front of digits count nothing. -/
theorem ofDigits_zeros_append (n : Nat) (digits : List Char) :
    ofDigits (List.replicate n '0' ++ digits) = ofDigits digits := by
  rw [ofDigits_append, ofDigits_zeros, Nat.zero_mul, Nat.zero_add]

/-- Each zero behind digits counts ten times as much. -/
theorem ofDigits_append_zeros (digits : List Char) (n : Nat) :
    ofDigits (digits ++ List.replicate n '0') = ofDigits digits * 10 ^ n := by
  rw [ofDigits_append, ofDigits_zeros, List.length_replicate, Nat.add_zero]

theorem ofDigits_digits (d : Decimal) : ofDigits d.digits = d.coefficient := by
  rw [ofDigits_eq_ofDigitChars, digits, Nat.ofDigitChars_ten_toDigits]

theorem isDigit_of_mem_digits {d : Decimal} {c : Char} (h : c ∈ d.digits) : c.isDigit = true :=
  Nat.isDigit_of_mem_toDigits (by decide) (by decide) h

theorem isDigit_of_mem_zeros {n : Nat} {c : Char} (h : c ∈ List.replicate n '0') :
    c.isDigit = true := by
  rw [List.eq_of_mem_replicate h]
  rfl

theorem significant_prefix (d : Decimal) : d.significant <+: d.digits :=
  List.rdropWhile_prefix (· == '0') d.digits

theorem isDigit_of_mem_significant {d : Decimal} {c : Char} (h : c ∈ d.significant) :
    c.isDigit = true :=
  isDigit_of_mem_digits (d.significant_prefix.subset h)

/-- What follows the significant digits is zeros. -/
theorem digits_eq_append (d : Decimal) :
    d.digits =
      d.significant ++ List.replicate (d.digits.length - d.significant.length) '0' := by
  have hparts : d.significant ++ d.digits.rtakeWhile (· == '0') = d.digits :=
    List.rdropWhile_append_rtakeWhile
  have hzeros : d.digits.rtakeWhile (· == '0') =
      List.replicate (d.digits.length - d.significant.length) '0' := by
    refine List.eq_replicate_iff.mpr ⟨?_, fun c hc => ?_⟩
    · have hlength := congrArg List.length hparts
      rw [List.length_append] at hlength
      omega
    · simpa using List.mem_rtakeWhile_imp hc
  rw [← hzeros, hparts]

theorem significant_ne_nil {d : Decimal} (h : d.coefficient ≠ 0) : d.significant ≠ [] := by
  intro hnil
  have hdigits := d.digits_eq_append
  rw [hnil, List.nil_append] at hdigits
  refine h ?_
  rw [← d.ofDigits_digits, hdigits, ofDigits_zeros]

/-- The significant digits, with the power that the last of them counts, say all. -/
theorem value_significant (d : Decimal) :
    value ⟨ofDigits d.significant, d.leading + 1 - d.significant.length⟩ = d.value := by
  have hle := d.significant_prefix.length_le
  have hcoefficient : d.coefficient =
      ofDigits d.significant * 10 ^ (d.digits.length - d.significant.length) := by
    rw [← ofDigits_append_zeros, ← digits_eq_append, ofDigits_digits]
  have hexponent : d.leading + 1 - d.significant.length =
      d.exponent + (d.digits.length - d.significant.length : Nat) := by
    rw [leading]
    omega
  rw [hexponent, ← value_mul_pow, ← hcoefficient]

-- ── The power that the first digit counts ───────────────────────────────────────────

/-- A number is not below the power that its first digit counts. -/
theorem pow_leading_le_value {d : Decimal} (h : d.coefficient ≠ 0) :
    (10 : ℚ) ^ d.leading ≤ d.value := by
  have hpos : 0 < d.digits.length := Nat.length_toDigits_pos
  have hle : 10 ^ (d.digits.length - 1) ≤ d.coefficient := by
    by_cases hone : d.digits.length = 1
    · rw [hone]
      exact Nat.pos_of_ne_zero h
    · by_contra hlt
      have hlength : d.digits.length ≤ d.digits.length - 1 :=
        (Nat.length_toDigits_le_iff (by decide) (by omega)).mpr (Nat.not_le.mp hlt)
      omega
  have hleading : d.leading = (d.digits.length - 1 : Nat) + d.exponent := by
    rw [leading]
    omega
  rw [hleading, zpow_add₀ ten_ne_zero, zpow_natCast, value]
  exact mul_le_mul_of_nonneg_right (by exact_mod_cast hle) (by positivity)

/-- And it is below the next power. -/
theorem value_lt_pow_leading (d : Decimal) : d.value < (10 : ℚ) ^ (d.leading + 1) := by
  have hlt : d.coefficient < 10 ^ d.digits.length :=
    (Nat.length_toDigits_le_iff (by decide) Nat.length_toDigits_pos).mp (Nat.le_refl _)
  have hleading : d.leading + 1 = d.digits.length + d.exponent := by
    rw [leading]
    omega
  rw [hleading, zpow_add₀ ten_ne_zero, zpow_natCast, value]
  exact mul_lt_mul_of_pos_right (by exact_mod_cast hlt) (by positivity)

/-- The power that the first digit counts is the greatest one that is not above the number. -/
theorem le_leading_iff {d : Decimal} (h : d.coefficient ≠ 0) {power : Int} :
    power ≤ d.leading ↔ (10 : ℚ) ^ power ≤ d.value := by
  constructor
  · intro hle
    exact (zpow_le_zpow_right₀ (by norm_num) hle).trans (pow_leading_le_value h)
  · intro hle
    have hlt : (10 : ℚ) ^ power < 10 ^ (d.leading + 1) := hle.trans_lt d.value_lt_pow_leading
    exact Int.lt_add_one_iff.mp ((zpow_lt_zpow_iff_right₀ (by norm_num)).mp hlt)

-- ── Digits around a point ───────────────────────────────────────────────────────────

/-- `Pointed whole fraction number`: digits around a point, at least one on either side, write a
    number. -/
structure Pointed (whole fraction : List Char) (number : ℚ) : Prop where
  whole_ne_nil     : whole ≠ []
  isDigit_whole    : ∀ c ∈ whole, c.isDigit = true
  fraction_ne_nil  : fraction ≠ []
  isDigit_fraction : ∀ c ∈ fraction, c.isDigit = true
  value_eq         : value ⟨ofDigits (whole ++ fraction), -(fraction.length : Int)⟩ = number

/-- A number below one has zeros in front of its digits. -/
theorem pointed_of_leading_neg {d : Decimal} (hcoefficient : d.coefficient ≠ 0)
    (hleading : d.leading < 0) :
    Pointed ['0'] (List.replicate (-d.leading - 1).toNat '0' ++ d.significant) d.value where
  whole_ne_nil := List.cons_ne_nil _ _
  isDigit_whole _ hc := @isDigit_of_mem_zeros 1 _ hc
  fraction_ne_nil := List.append_ne_nil_of_right_ne_nil _ (significant_ne_nil hcoefficient)
  isDigit_fraction c hc := by
    rcases List.mem_append.mp hc with hc | hc
    · exact isDigit_of_mem_zeros hc
    · exact isDigit_of_mem_significant hc
  value_eq := by
    have hdigits : ofDigits (['0'] ++ (List.replicate (-d.leading - 1).toNat '0' ++
        d.significant)) = ofDigits d.significant :=
      ofDigits_zeros_append ((-d.leading - 1).toNat + 1) d.significant
    rw [hdigits, ← value_significant d, List.length_append, List.length_replicate]
    congr 2
    omega

/-- A number of which the digits end in front of the point is whole. -/
theorem pointed_of_length_le {d : Decimal} {length : Nat} (hlength : (length : Int) = d.leading + 1)
    (hpos : 0 < length) (hle : d.significant.length ≤ length) :
    Pointed (d.significant ++ List.replicate (length - d.significant.length) '0') ['0'] d.value where
  whole_ne_nil h := by
    have hnone := congrArg List.length h
    rw [List.length_append, List.length_replicate, List.length_nil] at hnone
    omega
  isDigit_whole c hc := by
    rcases List.mem_append.mp hc with hc | hc
    · exact isDigit_of_mem_significant hc
    · exact isDigit_of_mem_zeros hc
  fraction_ne_nil := List.cons_ne_nil _ _
  isDigit_fraction _ hc := @isDigit_of_mem_zeros 1 _ hc
  value_eq := by
    have hzeros : d.significant ++ List.replicate (length - d.significant.length) '0' ++ ['0'] =
        d.significant ++ List.replicate (length - d.significant.length + 1) '0' := by
      rw [List.append_assoc, List.replicate_succ']
    rw [hzeros, ofDigits_append_zeros, value_mul_pow, ← value_significant d, List.length_singleton]
    congr 2
    omega

/-- The digits of a number that go on behind the point are all significant. -/
theorem pointed_of_lt_length {d : Decimal} {length : Nat} (hlength : (length : Int) = d.leading + 1)
    (hpos : 0 < length) (hlt : length < d.significant.length) :
    Pointed (d.significant.take length) (d.significant.drop length) d.value where
  whole_ne_nil h := by
    have hnone := congrArg List.length h
    rw [List.length_take, List.length_nil] at hnone
    omega
  isDigit_whole _ hc := isDigit_of_mem_significant (List.mem_of_mem_take hc)
  fraction_ne_nil h := by
    have hnone := congrArg List.length h
    rw [List.length_drop, List.length_nil] at hnone
    omega
  isDigit_fraction _ hc := isDigit_of_mem_significant (List.mem_of_mem_drop hc)
  value_eq := by
    rw [List.take_append_drop, List.length_drop, ← value_significant d]
    congr 2
    omega

/-- **The positional layout writes the number**, but for a zero with digits behind the point. -/
theorem exists_pointed {d : Decimal} (h : d.coefficient ≠ 0 ∨ 0 ≤ d.leading) :
    ∃ whole fraction, d.positional = whole ++ '.' :: fraction ∧ Pointed whole fraction d.value := by
  by_cases hleading : d.leading < 0
  · have hcoefficient : d.coefficient ≠ 0 := h.resolve_right (Int.not_le.mpr hleading)
    refine ⟨_, _, ?_, pointed_of_leading_neg hcoefficient hleading⟩
    rw [positional, if_pos hleading]
    simp
  · have hlength : ((d.leading.toNat + 1 : Nat) : Int) = d.leading + 1 := by omega
    rw [positional, if_neg hleading]
    dsimp only
    rcases Nat.lt_or_ge (d.leading.toNat + 1) d.significant.length with hlt | hle
    · have hpointed := pointed_of_lt_length hlength (Nat.succ_pos _) hlt
      refine ⟨_, _, ?_, hpointed⟩
      have hfull : (d.significant.take (d.leading.toNat + 1)).length = d.leading.toNat + 1 :=
        List.length_take_of_le (Nat.le_of_lt hlt)
      rw [List.rightpad, hfull, Nat.sub_self, if_neg (by simpa using hpointed.fraction_ne_nil)]
      simp
    · refine ⟨_, _, ?_, pointed_of_length_le hlength (Nat.succ_pos _) hle⟩
      rw [List.take_of_length_le hle, List.drop_of_length_le hle, List.rightpad]
      simp

-- ── Digits and an exponent ──────────────────────────────────────────────────────────

/-- **The scientific layout writes the number**: a digit, the others behind a point, and the power
    that the first one counts. -/
theorem exists_marked {d : Decimal} (h : d.coefficient ≠ 0) (mark : Char) :
    ∃ first others, first.isDigit = true ∧ (∀ c ∈ others, c.isDigit = true) ∧
      d.scientific mark = first :: (if others = [] then [] else '.' :: others) ++
        mark :: (toString d.leading).toList ∧
      value ⟨ofDigits (first :: others), d.leading - others.length⟩ = d.value := by
  obtain ⟨first, others, hdigits⟩ := List.exists_cons_of_ne_nil (significant_ne_nil h)
  have hdigit : ∀ c ∈ first :: others, c.isDigit = true := fun c hc =>
    isDigit_of_mem_significant (hdigits ▸ hc)
  refine ⟨first, others, hdigit first List.mem_cons_self,
    fun c hc => hdigit c (List.mem_cons_of_mem first hc), ?_, ?_⟩
  · simp [scientific, hdigits]
  · rw [← value_significant d, hdigits, List.length_cons]
    congr 2
    omega

end KindLex.Decimal
