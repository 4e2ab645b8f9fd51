import KindLex.Proofs.Binary64.Shortest
import KindLex.Proofs.Numbers

/-!
# The text of a real

A real is shown by its shortest decimal, and that reads back.  But only where the decimal is laid
out with a point alone is its text a number of the language: behind the mark of an exponent a name
begins, and infinity is a name as a whole.

* **`tokenize_pointed`**: what digits around a point are read as.
* **`Shown.of_finite`**, **`Shown.of_infinite`**: how a double is shown.
* **`tokenize_shown`**: how the reals of a source are shown.
* **`shown_tenQuadrillion`**: a whole real that is shown without a fraction.
-/

namespace KindLex

open Lexeme

/-- The text has digits around a point, and nothing else. -/
def HasFraction (text : String) : Prop :=
  ∃ whole fraction, text.toList = whole ++ '.' :: fraction ∧ FractionNumber whole fraction []

/-- The text is digits, the first of them before a point if there are others, and an exponent that
    is not written with a point alone; and what they stand for rounds to the double. -/
def HasExponent (x : Binary64) (text : String) : Prop :=
  ∃ first others power, first.isDigit = true ∧ (∀ c ∈ others, c.isDigit = true) ∧
    (power < -4 ∨ 15 < power) ∧
    text.toList = first :: (if others = [] then [] else '.' :: others) ++
      'e' :: (toString power).toList ∧
    Binary64.ofDecimal ⟨Decimal.ofDigits (first :: others), power - (others.length : Int)⟩ = x

/-- How a double is shown, and what its text is read as. -/
structure Shown (x : Binary64) (text : String) : Prop where
  /-- It is shown with a fraction exactly if it is zero, or at least `10 ^ -4` and less than
      `10 ^ 16`. -/
  hasFraction : HasFraction text ↔ Binary64.IsPlain x.magnitude
  /-- In that case its text is read as one real of the same value. -/
  readsBack : Binary64.IsPlain x.magnitude →
    tokenize text = [⟨.real, text, some (.real x), 1⟩, ⟨.eof, "", none, 1⟩]
  /-- Otherwise it is not, wherever the real might be found in the text. -/
  plain_of_readsBack : ∀ lexeme line last,
    tokenize text = [⟨.real, lexeme, some (.real x), line⟩, last] →
      Binary64.IsPlain x.magnitude
  /-- Another finite double is shown with an exponent. -/
  hasExponent : x.isInfinite = false → ¬ Binary64.IsPlain x.magnitude → HasExponent x text
  infinite : x.isInfinite = true → text = "inf"

-- ── What the two layouts are read as ────────────────────────────────────────────────

theorem fractionNumber_of_pointed {whole fraction : List Char} {number : ℚ}
    (h : Decimal.Pointed whole fraction number) : FractionNumber whole fraction [] :=
  ⟨h.whole_ne_nil, h.isDigit_whole, h.fraction_ne_nil, h.isDigit_fraction, nofun⟩

/-- **Digits around a point are read as the double nearest to what they write.** -/
theorem tokenize_pointed {whole fraction : List Char} {d : Decimal}
    (h : Decimal.Pointed whole fraction d.value) :
    tokenize (String.ofList (whole ++ '.' :: fraction)) =
      [⟨.real, String.ofList (whole ++ '.' :: fraction), some (.real (Binary64.ofDecimal d)), 1⟩,
        ⟨.eof, "", none, 1⟩] := by
  have hhead : ∃ c ∈ (whole ++ '.' :: fraction).head?, c.isDigit = true :=
    exists_isDigit_head? (List.prefix_append _ _) h.whole_ne_nil h.isDigit_whole
  have hscans := Scans.number (fractionNumber_of_pointed h).cut hhead (.finish 1)
  rw [Token.ofLexeme, ofLexeme_real h.whole_ne_nil h.isDigit_whole,
    Binary64.ofDecimal_congr h.value_eq, List.append_nil] at hscans
  apply tokenize_eq_of_scans
  rw [String.toList_ofList]
  exact hscans

/-- A token is found at the mark of an exponent, in front of the end. -/
theorem exists_scans_mark {rest : List Char} {line : Nat} {tokens : List Token}
    (h : Scans ('e' :: rest) line tokens) : ∃ t u more, tokens = t :: u :: more := by
  generalize htext : 'e' :: rest = text at h
  cases h with
  | finish => contradiction
  | skip hpart =>
      exfalso
      cases hpart with
      | blank hc =>
          obtain ⟨rfl, -⟩ := List.cons.inj htext
          exact absurd hc (by decide)
      | comment => exact absurd (List.cons.inj htext).1 (by decide)
  | token _ h =>
      obtain ⟨u, more, rfl⟩ := List.exists_cons_of_ne_nil h.ne_nil
      exact ⟨_, u, more, rfl⟩

/-- Digits end at the mark of an exponent. -/
theorem cut_marked {first : Char} {others : List Char} (hfirst : first.isDigit = true)
    (hothers : ∀ c ∈ others, c.isDigit = true) (rest : List Char) :
    Cut (first :: if others = [] then [] else '.' :: others) ('e' :: rest) := by
  have hone : ∀ c ∈ [first], c.isDigit = true := by
    intro c hc
    obtain rfl := List.mem_singleton.mp hc
    exact hfirst
  have hends : EndsRun Char.isDigit ('e' :: rest) := endsRun_cons rest (by decide)
  split
  · exact .integer (List.cons_ne_nil _ _) hone hends nofun
  · rename_i hne
    exact @Cut.real [first] others _ (List.cons_ne_nil _ _) hone hne hothers hends

/-- **Digits and an exponent are not read as one number.** -/
theorem tokenize_marked_ne {text : String} {first : Char} {others rest : List Char}
    (hfirst : first.isDigit = true) (hothers : ∀ c ∈ others, c.isDigit = true)
    (htext : text.toList = first :: (if others = [] then [] else '.' :: others) ++ 'e' :: rest)
    (t last : Token) : tokenize text ≠ [t, last] := by
  intro htokens
  obtain ⟨tail, htail⟩ := exists_scans ('e' :: rest) 1
  have hscans := Scans.number (cut_marked hfirst hothers rest) ⟨first, rfl, hfirst⟩ htail
  rw [← htext] at hscans
  obtain ⟨u, v, more, rfl⟩ := exists_scans_mark htail
  have hlength := congrArg List.length (htokens.symm.trans (tokenize_eq_of_scans hscans))
  simp at hlength

theorem not_hasFraction_of_mem {text : String} {c : Char} (hc : c ∈ text.toList)
    (hdigit : c.isDigit = false) (hpoint : c ≠ '.') : ¬ HasFraction text := by
  rintro ⟨whole, fraction, htext, hnumber⟩
  have hno : ¬ c.isDigit = true := Bool.eq_false_iff.mp hdigit
  rw [htext, List.mem_append, List.mem_cons] at hc
  rcases hc with hc | rfl | hc
  · exact hno (hnumber.isDigit_whole c hc)
  · exact hpoint rfl
  · exact hno (hnumber.isDigit_fraction c hc)

-- ── How doubles are shown ───────────────────────────────────────────────────────────

section Doubles

variable {x : Binary64} (hnan : x.isNaN = false) (hsign : x.isNegative = false)

include hnan in
theorem magnitude_lt_infinity (hfinite : x.isInfinite = false) :
    x.magnitude < Binary64.infinity := by
  have hle : x.magnitude ≤ Binary64.infinity := Nat.not_lt.mp (of_decide_eq_false hnan)
  exact Nat.lt_of_le_of_ne hle (beq_eq_false_iff_ne.mp hfinite)

include hsign in
/-- A double without a sign is its magnitude. -/
theorem eq_of_magnitude_eq {y : Binary64} (hy : y.isNegative = false)
    (h : y.magnitude = x.magnitude) : y = x := by
  have hbits : ∀ z : Binary64, z.isNegative = false → z.magnitude = z.bits.toNat := by
    intro z hz
    exact Nat.mod_eq_of_lt (Nat.not_le.mp (of_decide_eq_false hz))
  rw [hbits y hy, hbits x hsign] at h
  cases x
  cases y
  exact congrArg _ (UInt64.toNat_inj.mp h)

include hnan hsign

/-- The shortest decimal of a double rounds to the double. -/
theorem ofDecimal_shortest (hfinite : x.isInfinite = false) :
    Binary64.ofDecimal (Binary64.shortest x.magnitude) = x := by
  refine eq_of_magnitude_eq hsign (Binary64.isNegative_ofDecimal _) ?_
  rw [Binary64.magnitude_ofDecimal,
    Binary64.nearestMagnitude_shortest (magnitude_lt_infinity hnan hfinite)]

theorem text_of_finite (hfinite : x.isInfinite = false) :
    x.text = String.ofList ((Binary64.shortest x.magnitude).layOut Binary64.layout) := by
  rw [Binary64.text, hnan, hsign, hfinite]
  rfl

/-- A plain double is shown by digits around a point. -/
theorem exists_text_of_isPlain (hfinite : x.isInfinite = false)
    (hplain : Binary64.IsPlain x.magnitude) :
    ∃ whole fraction, x.text = String.ofList (whole ++ '.' :: fraction) ∧
      Decimal.Pointed whole fraction (Binary64.shortest x.magnitude).value := by
  have hlt := magnitude_lt_infinity hnan hfinite
  have hlayout := (Binary64.positional_shortest_iff hlt).mpr hplain
  have hdigits : (Binary64.shortest x.magnitude).coefficient ≠ 0 ∨
      0 ≤ (Binary64.shortest x.magnitude).leading := by
    rcases Nat.eq_zero_or_pos x.magnitude with hzero | hpos
    · rw [hzero]
      exact Or.inr (by decide)
    · exact Or.inl (Binary64.coefficient_shortest_ne_zero hpos hlt)
  obtain ⟨whole, fraction, hpositional, hpointed⟩ := Decimal.exists_pointed hdigits
  refine ⟨whole, fraction, ?_, hpointed⟩
  rw [text_of_finite hnan hsign hfinite, ← hpositional]
  exact congrArg _ (if_pos hlayout)

/-- Another finite double is shown by digits and an exponent. -/
theorem hasExponent_text (hfinite : x.isInfinite = false)
    (hplain : ¬ Binary64.IsPlain x.magnitude) : HasExponent x x.text := by
  have hlt := magnitude_lt_infinity hnan hfinite
  have hlayout := mt (Binary64.positional_shortest_iff hlt).mp hplain
  have hpos : 0 < x.magnitude := Nat.pos_of_ne_zero fun hzero => hplain (Or.inl hzero)
  obtain ⟨first, others, hfirst, hothers, hscientific, hvalue⟩ :=
    Decimal.exists_marked (Binary64.coefficient_shortest_ne_zero hpos hlt) 'e'
  refine ⟨first, others, (Binary64.shortest x.magnitude).leading, hfirst, hothers, ?_, ?_, ?_⟩
  · exact (not_and_or.mp hlayout).imp Int.not_le.mp Int.not_le.mp
  · rw [text_of_finite hnan hsign hfinite, String.toList_ofList, ← hscientific]
    exact if_neg hlayout
  · rw [Binary64.ofDecimal_congr hvalue, ofDecimal_shortest hnan hsign hfinite]

/-- **How a finite double is shown.** -/
theorem Shown.of_finite (hfinite : x.isInfinite = false) : Shown x x.text := by
  by_cases hplain : Binary64.IsPlain x.magnitude
  · obtain ⟨whole, fraction, htext, hpointed⟩ := exists_text_of_isPlain hnan hsign hfinite hplain
    refine ⟨iff_of_true ⟨whole, fraction, ?_, fractionNumber_of_pointed hpointed⟩ hplain,
      fun _ => ?_, fun _ _ _ _ => hplain, fun _ h => absurd hplain h, fun h => ?_⟩
    · rw [htext, String.toList_ofList]
    · rw [htext, tokenize_pointed hpointed, ofDecimal_shortest hnan hsign hfinite]
    · rw [hfinite] at h
      contradiction
  · have hexponent := hasExponent_text hnan hsign hfinite hplain
    have ⟨first, others, power, hfirst, hothers, _, htext, _⟩ := hexponent
    have hmark : 'e' ∈ x.text.toList := by
      rw [htext]
      exact List.mem_append_right _ List.mem_cons_self
    refine ⟨iff_of_false (not_hasFraction_of_mem hmark (by decide) (by decide)) hplain,
      fun h => absurd h hplain, fun _ _ _ htokens => ?_, fun _ _ => hexponent, fun h => ?_⟩
    · exact absurd htokens (tokenize_marked_ne hfirst hothers htext _ _)
    · rw [hfinite] at h
      contradiction

/-- **How infinity is shown**: as a name. -/
theorem Shown.of_infinite (hinfinite : x.isInfinite = true) : Shown x x.text := by
  have htext : x.text = "inf" := by
    rw [Binary64.text, hnan, hsign, hinfinite]
    rfl
  have hplain : ¬ Binary64.IsPlain x.magnitude := by
    have hbeyond : ¬ Binary64.IsPlain Binary64.infinity := by
      rintro (hzero | ⟨-, hlt⟩)
      · exact absurd hzero (by decide)
      · exact absurd hlt (by decide +kernel)
    rwa [beq_iff_eq.mp hinfinite]
  have hread : tokenize "inf" = [⟨.identifier, "inf", none, 1⟩, ⟨.eof, "", none, 1⟩] := by
    decide +kernel
  rw [htext]
  refine ⟨iff_of_false ?_ hplain, fun h => absurd h hplain, fun _ _ _ htokens => ?_,
    fun h => ?_, fun _ => rfl⟩
  · exact @not_hasFraction_of_mem "inf" 'i' (by decide) (by decide) (by decide)
  · rw [hread] at htokens
    simp at htokens
  · rw [hinfinite] at h
    contradiction

/-- **How a double is shown** that is a number and has no sign. -/
theorem Shown.of_unsigned : Shown x x.text := by
  cases hinfinite : x.isInfinite with
  | false => exact Shown.of_finite hnan hsign hinfinite
  | true => exact Shown.of_infinite hnan hsign hinfinite

end Doubles

-- ── The reals of a source ───────────────────────────────────────────────────────────

/-- **How the reals of a source are shown**, and what their texts are read as. -/
theorem tokenize_shown (source : String) (t : Token) (ht : t ∈ tokenize source)
    (hkind : t.kind = .real) :
    ∃ x, t.literal = some (.real x) ∧ Shown x (Literal.real x).text := by
  obtain ⟨hspells, hsame, hliteral⟩ := spells_of_mem ht
  obtain ⟨x, hx, hnan, hsign⟩ := literal_of_kind_eq_real hspells (hsame ▸ hkind)
  exact ⟨x, hliteral.trans hx, Shown.of_unsigned hnan hsign⟩

/-- The least positive double that is shown with a point alone. -/
theorem tokenize_shown_tenThousandth :
    (⟨.real, "0.0001", some (.real ⟨0x3F1A36E2EB1C432D⟩), 1⟩ : Token) ∈ tokenize "x = 0.0001" ∧
      Kind.real = .real ∧
      ∃ x, some (Literal.real ⟨0x3F1A36E2EB1C432D⟩) = some (.real x) ∧
        Shown x (Literal.real x).text := by
  have hmem : (⟨.real, "0.0001", some (.real ⟨0x3F1A36E2EB1C432D⟩), 1⟩ : Token) ∈
      tokenize "x = 0.0001" := by
    decide +kernel
  exact ⟨hmem, rfl, tokenize_shown _ _ hmem rfl⟩

/-- **A whole real is shown without a fraction**, and its text is read as an integer and a name. -/
theorem shown_tenQuadrillion :
    tokenize "10000000000000000.0" =
        [⟨.real, "10000000000000000.0", some (.real ⟨0x4341C37937E08000⟩), 1⟩,
          ⟨.eof, "", none, 1⟩] ∧
      (Literal.real ⟨0x4341C37937E08000⟩).text = "1e16" ∧ ¬ HasFraction "1e16" ∧
      tokenize "1e16" =
        [⟨.integer, "1", some (.integer 1), 1⟩, ⟨.identifier, "e16", none, 1⟩,
          ⟨.eof, "", none, 1⟩] := by
  refine ⟨by decide +kernel, by decide +kernel, ?_, by decide +kernel⟩
  exact @not_hasFraction_of_mem "1e16" 'e' (by decide) (by decide) (by decide)

end KindLex
