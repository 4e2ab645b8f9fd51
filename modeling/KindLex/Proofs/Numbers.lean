import KindLex.Proofs.Binary64.Nearest
import KindLex.Proofs.Classification
import KindLex.Proofs.Scanner.Scans
import Mathlib.Data.List.Induction
import Mathlib.Data.Nat.Digits.Defs

/-!
# Numbers

A number is digits, with or without a fraction behind a point.  Without one it is read exactly, and
what is beyond the range of integers is an error that names it.  With a fraction it is rounded to
the nearest double, and there is no error: what is beyond the finite doubles is read as infinity.

* **`Lexeme.Cut.number`**: where a digit stands, a number is cut off, with a fraction if there is
  one.
* **`tokenize_integer`**: the tokens that whole numbers make.
* **`tokenize_real`**: the tokens that numbers with a fraction make.
* **`tokenize_infiniteReal`**: one that is infinite.
-/

namespace KindLex

open Lexeme Scanner

-- ── The value of digits ─────────────────────────────────────────────────────────────

/-- The number that digits write in base ten. -/
def decimalValue (digits : List Char) : Nat :=
  Nat.ofDigits 10 (digits.reverse.map fun c => c.toNat - '0'.toNat)

/-- Digits are read as the number that they write. -/
theorem ofDigits_eq_decimalValue (digits : List Char) :
    Decimal.ofDigits digits = decimalValue digits := by
  induction digits using List.reverseRecOn with
  | nil => rfl
  | append_singleton digits c ih =>
      rw [Decimal.ofDigits] at ih ⊢
      rw [List.foldl_append, ih, decimalValue, decimalValue, List.reverse_append]
      exact Nat.add_comm _ _

-- ── How numbers are cut ─────────────────────────────────────────────────────────────

/-- `WholeNumber digits rest`: in a text that goes on with `rest`, the digits are a number, since
    neither a further digit nor a fraction is behind them. -/
structure WholeNumber (digits rest : List Char) : Prop where
  ne_nil   : digits ≠ []
  isDigit  : ∀ c ∈ digits, c.isDigit = true
  ends     : ∀ c ∈ rest.head?, c.isDigit = false
  fraction : ∀ c tail, rest = '.' :: c :: tail → c.isDigit = false

/-- `FractionNumber whole fraction rest`: in a text that goes on with `rest`, the digits around a
    point are a number, since no further digit is behind them. -/
structure FractionNumber (whole fraction rest : List Char) : Prop where
  whole_ne_nil     : whole ≠ []
  isDigit_whole    : ∀ c ∈ whole, c.isDigit = true
  fraction_ne_nil  : fraction ≠ []
  isDigit_fraction : ∀ c ∈ fraction, c.isDigit = true
  ends             : ∀ c ∈ rest.head?, c.isDigit = false

theorem WholeNumber.cut {digits rest : List Char} (h : WholeNumber digits rest) :
    Cut digits rest := by
  refine .integer h.ne_nil h.isDigit h.ends ?_
  rintro tail rfl c hc
  obtain ⟨tail, rfl⟩ : ∃ more, tail = c :: more := List.head?_eq_some_iff.mp hc
  exact h.fraction c tail rfl

theorem FractionNumber.cut {whole fraction rest : List Char}
    (h : FractionNumber whole fraction rest) : Cut (whole ++ '.' :: fraction) rest :=
  .real h.whole_ne_nil h.isDigit_whole h.fraction_ne_nil h.isDigit_fraction h.ends

theorem exists_isDigit_head? {digits text : List Char} (hpre : digits <+: text)
    (hne : digits ≠ []) (hdigits : ∀ c ∈ digits, c.isDigit = true) :
    ∃ c ∈ text.head?, c.isDigit = true := by
  obtain ⟨tail, rfl⟩ := hpre
  obtain ⟨c, digits, rfl⟩ := List.exists_cons_of_ne_nil hne
  exact ⟨c, rfl, hdigits c List.mem_cons_self⟩

/-- **What is cut off where a digit stands is a number.** -/
theorem Lexeme.Cut.number {lexeme rest : List Char} (h : Cut lexeme rest)
    (hhead : ∃ c ∈ lexeme.head?, c.isDigit = true) :
    WholeNumber lexeme rest ∨
      ∃ whole fraction, lexeme = whole ++ '.' :: fraction ∧ FractionNumber whole fraction rest := by
  obtain ⟨c, hc, hdigit⟩ := hhead
  cases h with
  | integer hne hdigits hrest hpoint =>
      exact Or.inl ⟨hne, hdigits, hrest, fun d tail htail => hpoint _ htail d rfl⟩
  | real hne hwhole hne' hfraction hrest =>
      exact Or.inr ⟨_, _, rfl, hne, hwhole, hne', hfraction, hrest⟩
  | string | openString | character | openCharacter | apostrophe | farewell =>
      obtain rfl := Option.some.inj hc
      exact absurd hdigit (by decide)
  | word hstart =>
      obtain rfl := Option.some.inj hc
      rw [isWordStart_of_isDigit hdigit] at hstart
      contradiction
  | @mark sign =>
      obtain ⟨-, -, hno, -⟩ := spelling_head sign c hc
      rw [hno] at hdigit
      contradiction
  | stray _ _ hno =>
      obtain rfl := Option.some.inj hc
      rw [hno] at hdigit
      contradiction

/-- Digits that are cut off are a number. -/
theorem Lexeme.Cut.wholeNumber {digits rest : List Char} (h : Cut digits rest) (hne : digits ≠ [])
    (hdigits : ∀ c ∈ digits, c.isDigit = true) : WholeNumber digits rest := by
  have hhead := exists_isDigit_head? (List.prefix_refl _) hne hdigits
  rcases h.number hhead with h | ⟨whole, fraction, rfl, -⟩
  · exact h
  · exact absurd (hdigits '.' (by simp)) (by decide)

/-- A number stands wherever it is cut. -/
theorem stands_of_isDigit {lexeme rest : List Char} (h : Cut lexeme rest)
    (hhead : ∃ c ∈ lexeme.head?, c.isDigit = true) : Stands lexeme rest := by
  obtain ⟨c, hc, hdigit⟩ := hhead
  obtain ⟨tail, rfl⟩ := List.head?_eq_some_iff.mp hc
  refine ⟨⟨List.cons_ne_nil _ _, ?_, ?_⟩, h⟩
  · intro d hd hblank
    obtain rfl : c = d := Option.some.inj hd
    have hno : c.isDigit = false :=
      eq_false_of_isBlank (by decide) ((Trivia.isBlank_iff c).mpr hblank)
    rw [hno] at hdigit
    contradiction
  · rintro ⟨_, hslashes⟩
    obtain ⟨rfl, -⟩ := List.cons.inj hslashes
    exact absurd hdigit (by decide)

-- ── What numbers are read as ────────────────────────────────────────────────────────

/-- Digits make an integer if their value is in range, and otherwise an error. -/
theorem ofLexeme_whole {digits : List Char} (hne : digits ≠ [])
    (hdigits : ∀ c ∈ digits, c.isDigit = true) (line : Nat) :
    Token.ofLexeme digits line =
      if decimalValue digits ≤ 2 ^ 63 - 1 then
        ⟨.integer, String.ofList digits, some (.integer (decimalValue digits)), line⟩
      else
        ⟨.error, String.ofList digits, some (.error (.invalidNumber (String.ofList digits))),
          line⟩ := by
  have hgreatest : Reading.greatestInteger = 2 ^ 63 - 1 := rfl
  rw [Token.ofLexeme, ofLexeme_integer hne hdigits, ofDigits_eq_decimalValue, hgreatest]
  split <;> rfl

/-- `Rounded whole fraction value`: the double is nearest to the number that digits around a point
    write, or infinite if they are beyond the finite doubles. -/
structure Rounded (whole fraction : List Char) (value : Binary64) : Prop where
  isNaN      : value.isNaN = false
  isNegative : value.isNegative = false
  /-- It is infinite from the midpoint of the greatest finite double, which is
      `2 ^ 1024 - 2 ^ 971`, and `2 ^ 1024` on. -/
  isInfinite : value.isInfinite = true ↔
    10 ^ fraction.length * (2 ^ 1024 - 2 ^ 970) ≤ decimalValue (whole ++ fraction)
  /-- Below that no magnitude is nearer to the number. -/
  nearest    : value.isInfinite = false → ∀ m,
    Nat.dist (10 ^ fraction.length * Binary64.units value.magnitude)
        (decimalValue (whole ++ fraction) * Binary64.perOne) ≤
      Nat.dist (10 ^ fraction.length * Binary64.units m)
        (decimalValue (whole ++ fraction) * Binary64.perOne)

/-- Digits around a point make a real, whatever their value. -/
theorem exists_ofLexeme_fraction {whole : List Char} (fraction : List Char) (hne : whole ≠ [])
    (hwhole : ∀ c ∈ whole, c.isDigit = true) :
    ∃ value, Rounded whole fraction value ∧ ∀ line,
      Token.ofLexeme (whole ++ '.' :: fraction) line =
        ⟨.real, String.ofList (whole ++ '.' :: fraction), some (.real value), line⟩ := by
  generalize hd : (⟨Decimal.ofDigits (whole ++ fraction), -(fraction.length : Int)⟩ : Decimal) = d
  have hnumerator : d.numerator = decimalValue (whole ++ fraction) := by
    have hzero : (-(fraction.length : Int)).toNat = 0 := by omega
    rw [← hd, Decimal.numerator, hzero, ofDigits_eq_decimalValue]
    exact Nat.mul_one _
  have hdenominator : d.denominator = 10 ^ fraction.length := by
    rw [← hd, Decimal.denominator, Int.neg_neg, Int.toNat_natCast]
    rfl
  refine ⟨Binary64.ofDecimal d,
    ⟨Binary64.isNaN_ofDecimal d, Binary64.isNegative_ofDecimal d, ?_, ?_⟩, ?_⟩
  · rw [← hnumerator, ← hdenominator]
    exact Binary64.isInfinite_ofDecimal_iff d
  · rw [← hnumerator, ← hdenominator]
    exact Binary64.dist_ofDecimal_le
  · intro line
    rw [Token.ofLexeme, ofLexeme_real hne hwhole, hd]
    rfl

-- ── Numbers of a source ─────────────────────────────────────────────────────────────

/-- Which tokens whole numbers make. -/
structure IntegerLaw (source : String) : Prop where
  /-- Digits within the range of integers make the integer that they write. -/
  within : ∀ s digits rest, Reachable source s → s.rest = digits ++ rest →
    WholeNumber digits rest → decimalValue digits ≤ 2 ^ 63 - 1 →
    TokenAt source s
      ⟨.integer, String.ofList digits, some (.integer (decimalValue digits)), s.line⟩
  /-- Digits beyond it make an error that names them. -/
  beyond : ∀ s digits rest, Reachable source s → s.rest = digits ++ rest →
    WholeNumber digits rest → 2 ^ 63 - 1 < decimalValue digits →
    TokenAt source s
      ⟨.error, String.ofList digits, some (.error (.invalidNumber (String.ofList digits))), s.line⟩
  /-- Every integer comes from digits within the range. -/
  integer : ∀ t ∈ tokenize source, t.kind = .integer →
    ∃ s digits rest, TokenAt source s t ∧ s.rest = digits ++ rest ∧ WholeNumber digits rest ∧
      decimalValue digits ≤ 2 ^ 63 - 1 ∧
      t = ⟨.integer, String.ofList digits, some (.integer (decimalValue digits)), s.line⟩

/-- Which tokens numbers with a fraction make. -/
structure RealLaw (source : String) : Prop where
  /-- Digits around a point make a real, and its value is what they round to, infinity included. -/
  reads : ∀ s whole fraction rest, Reachable source s →
    s.rest = whole ++ '.' :: fraction ++ rest → FractionNumber whole fraction rest →
    ∃ value, Rounded whole fraction value ∧
      TokenAt source s
        ⟨.real, String.ofList (whole ++ '.' :: fraction), some (.real value), s.line⟩
  /-- Every real comes from digits around a point. -/
  real : ∀ t ∈ tokenize source, t.kind = .real →
    ∃ s whole fraction rest value, TokenAt source s t ∧
      s.rest = whole ++ '.' :: fraction ++ rest ∧ FractionNumber whole fraction rest ∧
      Rounded whole fraction value ∧
      t = ⟨.real, String.ofList (whole ++ '.' :: fraction), some (.real value), s.line⟩
  /-- A number that is rejected has no fraction: it is a whole number beyond the integers. -/
  rejected : ∀ t ∈ tokenize source, ∀ text, t.error? = some (.invalidNumber text) →
    ∃ s digits rest, TokenAt source s t ∧ s.rest = digits ++ rest ∧ WholeNumber digits rest ∧
      2 ^ 63 - 1 < decimalValue digits ∧ text = String.ofList digits ∧ t.lexeme = text

/-- What is rejected as a number is digits beyond the range of integers. -/
theorem digits_of_spells {lexeme : List Char} {text : String}
    (h : Spells lexeme (.error (.invalidNumber text))) :
    text = String.ofList lexeme ∧ lexeme ≠ [] ∧ (∀ c ∈ lexeme, c.isDigit = true) ∧
      Reading.greatestInteger < Decimal.ofDigits lexeme := by
  cases h with
  | outOfRange hne hdigits hrange => exact ⟨rfl, hne, hdigits, hrange⟩

/-- Passing a number leads to no other line. -/
theorem count_newline_of_isDigit {lexeme rest : List Char} (h : Cut lexeme rest)
    (hhead : ∃ c ∈ lexeme.head?, c.isDigit = true) : lexeme.count '\n' = 0 := by
  obtain ⟨c, hc, hdigit⟩ := hhead
  exact List.count_eq_zero_of_not_mem (h.not_mem_newline hc (Or.inl hdigit))

/-- A number in front of a text makes its token in front of what the text makes. -/
theorem Scans.number {lexeme rest : List Char} {line : Nat} {tokens : List Token}
    (hcut : Cut lexeme rest) (hhead : ∃ c ∈ lexeme.head?, c.isDigit = true)
    (h : Scans rest line tokens) :
    Scans (lexeme ++ rest) line (Token.ofLexeme lexeme line :: tokens) := by
  have hline : line = line + lexeme.count '\n' := by
    rw [count_newline_of_isDigit hcut hhead, Nat.add_zero]
  have htoken := Scans.token (stands_of_isDigit hcut hhead) (hline ▸ h)
  rwa [← hline] at htoken

section Places

variable {source : String} {s : Scanner} (hs : Reachable source s)
include hs

/-- A number makes its token where it stands. -/
theorem tokenAt_of_isDigit {lexeme rest : List Char} (hsplit : s.rest = lexeme ++ rest)
    (h : Cut lexeme rest) (hhead : ∃ c ∈ lexeme.head?, c.isDigit = true) :
    TokenAt source s (Token.ofLexeme lexeme s.line) := by
  have htoken := tokenAt_of_stands hs hsplit (stands_of_isDigit h hhead)
  rwa [count_newline_of_isDigit h hhead] at htoken

theorem WholeNumber.tokenAt {digits rest : List Char} (h : WholeNumber digits rest)
    (hsplit : s.rest = digits ++ rest) : TokenAt source s (Token.ofLexeme digits s.line) :=
  tokenAt_of_isDigit hs hsplit h.cut
    (exists_isDigit_head? (List.prefix_refl _) h.ne_nil h.isDigit)

theorem FractionNumber.tokenAt {whole fraction rest : List Char}
    (h : FractionNumber whole fraction rest) (hsplit : s.rest = whole ++ '.' :: fraction ++ rest) :
    TokenAt source s (Token.ofLexeme (whole ++ '.' :: fraction) s.line) :=
  tokenAt_of_isDigit hs hsplit h.cut
    (exists_isDigit_head? (List.prefix_append _ _) h.whole_ne_nil h.isDigit_whole)

end Places

/-- **Only a whole number beyond the integers is rejected.** -/
theorem exists_wholeNumber_of_error? {source : String} {t : Token} {text : String}
    (ht : t ∈ tokenize source) (herror : t.error? = some (.invalidNumber text)) :
    ∃ s digits rest, TokenAt source s t ∧ s.rest = digits ++ rest ∧ WholeNumber digits rest ∧
      2 ^ 63 - 1 < decimalValue digits ∧ text = String.ofList digits ∧ t.lexeme = text := by
  have hend : t.kind ≠ .eof := by
    intro hkind
    have hnone := (error?_eq_none_iff ht).mpr (by rw [hkind]; nofun)
    rw [hnone] at herror
    contradiction
  obtain ⟨s, lexeme, rest, htoken, hsplit, hstands, rfl⟩ := exists_tokenAt_of_mem ht hend
  have hspells := hstands.cut.spells
  rw [Token.error?_ofLexeme_eq_some_iff.mp herror] at hspells
  obtain ⟨rfl, hne, hdigits, hrange⟩ := digits_of_spells hspells
  refine ⟨s, lexeme, rest, htoken, hsplit, hstands.cut.wholeNumber hne hdigits, ?_, rfl, rfl⟩
  exact ofDigits_eq_decimalValue lexeme ▸ hrange

/-- **The tokens that whole numbers make**, in every source. -/
theorem tokenize_integer (source : String) : IntegerLaw source where
  within s digits rest hs hsplit h hrange := by
    have htoken := h.tokenAt hs hsplit
    rwa [ofLexeme_whole h.ne_nil h.isDigit, if_pos hrange] at htoken
  beyond s digits rest hs hsplit h hrange := by
    have htoken := h.tokenAt hs hsplit
    rwa [ofLexeme_whole h.ne_nil h.isDigit, if_neg (Nat.not_le.mpr hrange)] at htoken
  integer t ht hkind := by
    obtain ⟨s, lexeme, rest, htoken, hsplit, hstands, rfl⟩ :=
      exists_tokenAt_of_mem ht (by rw [hkind]; nofun)
    obtain ⟨hne, hdigits, hrange⟩ := (kind_eq_integer_iff hstands.cut.spells).mp hkind
    have hhead := exists_isDigit_head? (List.prefix_refl _) hne hdigits
    rw [count_newline_of_isDigit hstands.cut hhead] at htoken ⊢
    have hwhole := hstands.cut.wholeNumber hne hdigits
    have hvalue : decimalValue lexeme ≤ 2 ^ 63 - 1 := ofDigits_eq_decimalValue lexeme ▸ hrange
    have hmade := ofLexeme_whole hne hdigits s.line
    rw [if_pos hvalue] at hmade
    exact ⟨s, lexeme, rest, htoken, hsplit, hwhole, hvalue, hmade⟩

/-- The greatest integer, with a zero in front, and the number behind it. -/
example : tokenize "09223372036854775807 9223372036854775808" =
    [⟨.integer, "09223372036854775807", some (.integer 9223372036854775807), 1⟩,
     ⟨.error, "9223372036854775808", some (.error (.invalidNumber "9223372036854775808")), 1⟩,
     ⟨.eof, "", none, 1⟩] := by
  decide +kernel

/-- **The tokens that numbers with a fraction make**, in every source. -/
theorem tokenize_real (source : String) : RealLaw source where
  reads s whole fraction rest hs hsplit h := by
    obtain ⟨value, hrounded, htoken⟩ :=
      exists_ofLexeme_fraction fraction h.whole_ne_nil h.isDigit_whole
    exact ⟨value, hrounded, htoken s.line ▸ h.tokenAt hs hsplit⟩
  real t ht hkind := by
    obtain ⟨s, lexeme, rest, htoken, hsplit, hstands, rfl⟩ :=
      exists_tokenAt_of_mem ht (by rw [hkind]; nofun)
    obtain ⟨whole, fraction, hlexeme, hne, hwhole, -⟩ :=
      (kind_eq_real_iff hstands.cut.spells).mp hkind
    have hhead := exists_isDigit_head? (hlexeme ▸ List.prefix_append _ _) hne hwhole
    rw [count_newline_of_isDigit hstands.cut hhead] at htoken ⊢
    rcases hstands.cut.number hhead with hdigits | ⟨whole', fraction', rfl, h⟩
    · have hpoint : '.' ∈ lexeme := by simp [hlexeme]
      exact absurd (hdigits.isDigit '.' hpoint) (by decide)
    · obtain ⟨value, hrounded, hmade⟩ :=
        exists_ofLexeme_fraction fraction' h.whole_ne_nil h.isDigit_whole
      exact ⟨s, whole', fraction', rest, value, htoken, hsplit, h, hrounded, hmade s.line⟩
  rejected _ ht _ herror := exists_wholeNumber_of_error? ht herror

/-- **A number with a fraction is no error though it is beyond the finite doubles**, here the power
    `10 ^ 309`. -/
theorem tokenize_infiniteReal :
    ∃ value : Binary64, value.isInfinite = true ∧
      tokenize (String.ofList ('1' :: List.replicate 309 '0' ++ ['.', '0'])) =
        [⟨.real, String.ofList ('1' :: List.replicate 309 '0' ++ ['.', '0']),
          some (.real value), 1⟩, ⟨.eof, "", none, 1⟩] := by
  have hnumber : FractionNumber ('1' :: List.replicate 309 '0') ['0'] [] :=
    ⟨List.cons_ne_nil _ _, List.all_eq_true.mp (by decide +kernel),
      List.cons_ne_nil _ _, List.all_eq_true.mp (by decide), nofun⟩
  obtain ⟨value, hrounded, hmade⟩ :=
    exists_ofLexeme_fraction ['0'] hnumber.whole_ne_nil hnumber.isDigit_whole
  have hbeyond : 10 ^ ['0'].length * (2 ^ 1024 - 2 ^ 970) ≤
      decimalValue ('1' :: List.replicate 309 '0' ++ ['0']) := by
    decide +kernel
  refine ⟨value, hrounded.isInfinite.mpr hbeyond, tokenize_eq_of_scans ?_⟩
  have hscans := Scans.number hnumber.cut ⟨'1', rfl, rfl⟩ (.finish 1)
  rw [hmade, List.append_nil] at hscans
  rw [String.toList_ofList]
  exact hscans

end KindLex
