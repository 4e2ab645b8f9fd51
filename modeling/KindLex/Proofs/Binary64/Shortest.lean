import KindLex.Literal
import KindLex.Proofs.Binary64.Nearest
import KindLex.Proofs.Decimal
import Mathlib.Tactic.FieldSimp

/-!
# The shortest decimal reads back

The search for the shortest decimal takes only decimals that round to the double, and so the decimal
it ends with rounds to it as well.  Rounding keeps the order of numbers: hence the shortest decimals
are in the order of their doubles, and whether one of them reaches a power of ten is a question
about the double.

* **`nearestMagnitude_mono`**: a greater decimal does not round to a smaller double.
* **`roundsTo_shortest`**: the shortest decimal rounds to its double.
* **`value_shortest_le_iff`**: shortest decimals are in the order of their doubles.
* **`positional_shortest_iff`**: the doubles of which the shortest decimal is laid out with a point
  alone.
-/

namespace KindLex.Binary64

-- ── Rounding goes by the number alone ───────────────────────────────────────────────

/-- A decimal is beyond a magnitude if its number is behind the midpoint above it, or on that
    midpoint and the significand is odd. -/
theorem isBeyond_decimal_iff {d : Decimal} {m : Nat} :
    isBeyond d.numerator d.denominator m = true ↔
      ((units m + units (m + 1) : Nat) : ℚ) < 2 * (d.value * perOne) ∨
        ((units m + units (m + 1) : Nat) : ℚ) = 2 * (d.value * perOne) ∧
          significand m % 2 = 1 := by
  have hpos : (0 : ℚ) < d.denominator := Nat.cast_pos.mpr (denominator_pos d)
  have hnumber : 2 * (d.value * perOne) = (2 * (d.numerator * perOne) : Nat) / d.denominator := by
    rw [← d.numerator_div_denominator]
    push_cast
    ring
  rw [isBeyond_iff, hnumber, lt_div_iff₀ hpos, eq_div_iff hpos.ne', ← Nat.cast_mul, Nat.cast_lt,
    Nat.cast_inj, Nat.mul_comm d.denominator]

/-- What is beyond a magnitude is beyond it if it is greater. -/
theorem isBeyond_of_value_le {d e : Decimal} (hle : d.value ≤ e.value) {m : Nat}
    (h : isBeyond d.numerator d.denominator m = true) :
    isBeyond e.numerator e.denominator m = true := by
  have hscaled : 2 * (d.value * perOne) ≤ 2 * (e.value * perOne) := by gcongr
  rw [isBeyond_decimal_iff] at h ⊢
  rcases h with h | ⟨h, hodd⟩
  · exact Or.inl (h.trans_le hscaled)
  · rcases (h.trans_le hscaled).lt_or_eq with hlt | heq
    · exact Or.inl hlt
    · exact Or.inr ⟨heq, hodd⟩

/-- **A greater decimal does not round to a smaller double.** -/
theorem nearestMagnitude_mono {d e : Decimal} (h : d.value ≤ e.value) :
    nearestMagnitude d.numerator d.denominator ≤ nearestMagnitude e.numerator e.denominator := by
  by_contra hlt
  obtain ⟨hfinite, hbeyond⟩ :=
    (lt_nearestMagnitude_iff (denominator_pos d) _).mp (Nat.not_le.mp hlt)
  exact Nat.lt_irrefl _ ((lt_nearestMagnitude_iff (denominator_pos e) _).mpr
    ⟨hfinite, isBeyond_of_value_le h hbeyond⟩)

/-- Decimals of one number round to one double. -/
theorem ofDecimal_congr {d e : Decimal} (h : d.value = e.value) : ofDecimal d = ofDecimal e := by
  have hsame := Nat.le_antisymm (nearestMagnitude_mono h.le) (nearestMagnitude_mono h.ge)
  rw [ofDecimal, ofDecimal, nearest, nearest, hsame]

/-- What rounds to a finite magnitude has it as its nearest. -/
theorem nearestMagnitude_of_roundsTo {d : Decimal} {m : Nat} (hfinite : m < infinity)
    (h : roundsTo d m = true) : nearestMagnitude d.numerator d.denominator = m := by
  rw [roundsTo, Bool.and_eq_true, Bool.or_eq_true, beq_iff_eq, Bool.not_eq_true'] at h
  obtain ⟨hbelow, habove⟩ := h
  have hiff : ∀ k, k < nearestMagnitude d.numerator d.denominator ↔
      k < infinity ∧ isBeyond d.numerator d.denominator k = true :=
    lt_nearestMagnitude_iff (denominator_pos d)
  refine Nat.le_antisymm (Nat.not_lt.mp fun hlt => ?_) ?_
  · rw [((hiff m).mp hlt).2] at habove
    contradiction
  · rcases hbelow with rfl | hbeyond
    · exact Nat.zero_le _
    · by_cases hzero : m = 0
      · omega
      · have hlt := (hiff (m - 1)).mpr ⟨by omega, hbeyond⟩
        omega

-- ── The shortest decimal ────────────────────────────────────────────────────────────

theorem roundsTo_of_onGrid? {m : Nat} {power : Int} {d : Decimal} (h : onGrid? m power = some d) :
    roundsTo d m = true := by
  rw [onGrid?] at h
  dsimp only at h
  split at h
  · rename_i hbelow habove
    obtain rfl := Option.some.inj h
    split
    · exact hbelow
    · exact habove
  · rename_i hbelow _
    exact Option.some.inj h ▸ hbelow
  · rename_i _ habove
    exact Option.some.inj h ▸ habove
  · contradiction

/-- So many fives and twos make so many tens. -/
theorem value_fives_mul_twos (number n : Nat) :
    Decimal.value ⟨number * Nat.pow 5 n, -(n : Int)⟩ * (Nat.pow 2 n : Nat) = number := by
  have hten : (10 : ℚ) ^ n = 5 ^ n * 2 ^ n := by
    rw [← mul_pow]
    norm_num only
  show ((number * 5 ^ n : Nat) : ℚ) * 10 ^ (-(n : Int)) * ((2 ^ n : Nat) : ℚ) = number
  rw [zpow_neg, zpow_natCast, hten]
  push_cast
  field_simp

theorem value_exactDecimal (m : Nat) : (exactDecimal m).value * perOne = units m := by
  have hexact : exactDecimal m = ⟨units m * Nat.pow 5 1074, -((1074 : Nat) : Int)⟩ := rfl
  have hone : perOne = Nat.pow 2 1074 := by decide +kernel
  -- how many there are plays no part
  generalize 1074 = n at hexact hone
  rw [hexact, hone, value_fives_mul_twos]

/-- The exact decimal of a magnitude lies between the midpoints around it. -/
theorem roundsTo_exactDecimal (m : Nat) : roundsTo (exactDecimal m) m = true := by
  have hiff : ∀ k, isBeyond (exactDecimal m).numerator (exactDecimal m).denominator k = true ↔
      units k + units (k + 1) < 2 * units m ∨
        units k + units (k + 1) = 2 * units m ∧ significand k % 2 = 1 := by
    intro k
    rw [isBeyond_decimal_iff, value_exactDecimal]
    norm_cast
  have habove : units m < units (m + 1) := units_strictMono (Nat.lt_succ_self m)
  rw [roundsTo, Bool.and_eq_true, Bool.or_eq_true, beq_iff_eq, Bool.not_eq_true',
    Bool.eq_false_iff, ne_eq, hiff, hiff]
  constructor
  · rcases Nat.eq_zero_or_pos m with hzero | hpos
    · exact Or.inl hzero
    · have hbelow : units (m - 1) < units m := units_strictMono (by omega)
      rw [Nat.sub_add_cancel hpos]
      omega
  · omega

/-- **The shortest decimal rounds to its double.** -/
theorem roundsTo_shortest (m : Nat) : roundsTo (shortest m) m = true := by
  rw [shortest]
  split
  · rename_i hzero
    rw [hzero]
    decide +kernel
  · dsimp only
    cases hfound : (List.range 17).findSome? fun (n : Nat) => onGrid? m (leadingPower m - n) with
    | none => exact roundsTo_exactDecimal m
    | some d =>
        obtain ⟨n, -, hgrid⟩ := List.exists_of_findSome?_eq_some hfound
        exact roundsTo_of_onGrid? hgrid

theorem nearestMagnitude_shortest {m : Nat} (hfinite : m < infinity) :
    nearestMagnitude (shortest m).numerator (shortest m).denominator = m :=
  nearestMagnitude_of_roundsTo hfinite (roundsTo_shortest m)

/-- **Shortest decimals are in the order of their doubles.** -/
theorem value_shortest_le_iff {m n : Nat} (hm : m < infinity) (hn : n < infinity) :
    (shortest m).value ≤ (shortest n).value ↔ m ≤ n := by
  have hmono : ∀ {a b}, a < infinity → b < infinity →
      (shortest a).value ≤ (shortest b).value → a ≤ b := by
    intro a b ha hb hle
    rw [← nearestMagnitude_shortest ha, ← nearestMagnitude_shortest hb]
    exact nearestMagnitude_mono hle
  refine ⟨hmono hm hn, fun hle => ?_⟩
  rcases Nat.eq_or_lt_of_le hle with rfl | hlt
  · exact le_refl _
  · by_contra hgt
    exact absurd (hmono hn hm (not_le.mp hgt).le) (Nat.not_le.mpr hlt)

/-- Only zero has a shortest decimal without a significant digit. -/
theorem coefficient_shortest_ne_zero {m : Nat} (hpos : 0 < m) (hfinite : m < infinity) :
    (shortest m).coefficient ≠ 0 := by
  intro hzero
  have hvalue : (shortest m).value ≤ (shortest 0).value := by
    rw [Decimal.value, Decimal.value, hzero]
    exact le_of_eq (by simp [shortest])
  exact absurd ((value_shortest_le_iff hfinite (by decide)).mp hvalue) (Nat.not_le.mpr hpos)

-- ── Layout ──────────────────────────────────────────────────────────────────────────

/-- Whether the first digit of a shortest decimal counts a power or a greater one is told by
    comparing its double with the one nearest to the power, if that has the power for its shortest
    decimal. -/
theorem le_leading_shortest_iff {m n : Nat} {power : Int} (hm : m < infinity) (hn : n < infinity)
    (hpos : 0 < n) (hpower : shortest m = ⟨1, power⟩) :
    power ≤ (shortest n).leading ↔ m ≤ n := by
  have hvalue : (shortest m).value = 10 ^ power := by
    rw [hpower, Decimal.value, Nat.cast_one, one_mul]
  rw [Decimal.le_leading_iff (coefficient_shortest_ne_zero hpos hn), ← hvalue,
    value_shortest_le_iff hm hn]

/-- Zero, and the doubles from `10 ^ -4` on that are less than `10 ^ 16`. -/
def IsPlain (m : Nat) : Prop :=
  m = 0 ∨ perOne ≤ 10 ^ 4 * units m ∧ units m < 10 ^ 16 * perOne

/-- The magnitude of `10 ^ -4`, rounded up. -/
def tenThousandth : Nat := 0x3F1A36E2EB1C432D

/-- The magnitude of `10 ^ 16`. -/
def tenQuadrillion : Nat := 0x4341C37937E08000

theorem tenThousandth_le_iff {m : Nat} : tenThousandth ≤ m ↔ perOne ≤ 10 ^ 4 * units m := by
  have hreached : perOne ≤ 10 ^ 4 * units tenThousandth := by decide +kernel
  have hbefore : 10 ^ 4 * units (tenThousandth - 1) < perOne := by decide +kernel
  constructor
  · intro hle
    have := units_strictMono.monotone hle
    omega
  · intro hle
    by_contra hlt
    have : units m ≤ units (tenThousandth - 1) := units_strictMono.monotone (by omega)
    omega

theorem tenQuadrillion_le_iff {m : Nat} : tenQuadrillion ≤ m ↔ 10 ^ 16 * perOne ≤ units m := by
  have hunits : units tenQuadrillion = 10 ^ 16 * perOne := by decide +kernel
  rw [← hunits, units_strictMono.le_iff_le]

/-- **The doubles of which the shortest decimal is laid out with a point alone.** -/
theorem positional_shortest_iff {m : Nat} (hfinite : m < infinity) :
    -4 ≤ (shortest m).leading ∧ (shortest m).leading ≤ 15 ↔ IsPlain m := by
  rcases Nat.eq_zero_or_pos m with rfl | hpos
  · exact iff_of_true (by decide) (Or.inl rfl)
  · have hleast : -4 ≤ (shortest m).leading ↔ tenThousandth ≤ m :=
      le_leading_shortest_iff (by decide) hfinite hpos (by decide +kernel)
    have hgreatest : 16 ≤ (shortest m).leading ↔ tenQuadrillion ≤ m :=
      le_leading_shortest_iff (by decide) hfinite hpos (by decide +kernel)
    have hne : m ≠ 0 := Nat.pos_iff_ne_zero.mp hpos
    rw [IsPlain, hleast, tenThousandth_le_iff, or_iff_right hne]
    rw [tenQuadrillion_le_iff] at hgreatest
    refine and_congr_right fun _ => ?_
    omega

end KindLex.Binary64
