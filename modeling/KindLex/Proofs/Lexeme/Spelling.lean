import KindLex.Lexeme.Reading
import KindLex.Proofs.Lexeme.Cut
import KindLex.Proofs.Lexeme.Sorts

/-!
# How each reading is spelled

`Reading.ofLexeme` tests a lexeme for one sort after the other.  Here each reading has its spelling
written out, and no spelling depends on what was tested before it.

* **`Spells`**: the lexemes of each reading.
* **`ofLexeme_of_spells`**: a lexeme that spells a reading is read as it, so it spells no other.
* **`Cut.spells`**: every lexeme that is cut off a text spells its reading.
-/

namespace KindLex.Lexeme

-- ── Names ───────────────────────────────────────────────────────────────────────────

/-- The capital letters of ASCII. -/
def Capital (c : Char) : Prop :=
  'A' ≤ c ∧ c ≤ 'Z'

/-- The small letters of ASCII. -/
def Small (c : Char) : Prop :=
  'a' ≤ c ∧ c ≤ 'z'

/-- The words `[A-Za-z_][A-Za-z0-9_]*`. -/
inductive Name : List Char → Prop where
  | intro {c tail} (hstart : Capital c ∨ Small c ∨ c = '_')
      (htail : ∀ d ∈ tail, Capital d ∨ Small d ∨ d.isDigit = true ∨ d = '_') : Name (c :: tail)

/-- The words `[A-Z][A-Z0-9_]*`. -/
inductive UpperName : List Char → Prop where
  | intro {c tail} (hstart : Capital c)
      (htail : ∀ d ∈ tail, Capital d ∨ d.isDigit = true ∨ d = '_') : UpperName (c :: tail)

theorem isUpper_iff (c : Char) : c.isUpper = true ↔ Capital c := by
  show decide ('A' ≤ c ∧ c ≤ 'Z') = true ↔ Capital c
  exact decide_eq_true_iff

theorem isLower_iff (c : Char) : c.isLower = true ↔ Small c := by
  show (decide ('a' ≤ c) && decide (c ≤ 'z')) = true ↔ Small c
  rw [Bool.and_eq_true, decide_eq_true_eq, decide_eq_true_eq]
  exact Iff.rfl

theorem isAlpha_iff (c : Char) : c.isAlpha = true ↔ Capital c ∨ Small c := by
  show (c.isUpper || c.isLower) = true ↔ Capital c ∨ Small c
  rw [Bool.or_eq_true, isUpper_iff, isLower_iff]

theorem isAlphanum_iff (c : Char) :
    c.isAlphanum = true ↔ Capital c ∨ Small c ∨ c.isDigit = true := by
  show (c.isAlpha || c.isDigit) = true ↔ Capital c ∨ Small c ∨ c.isDigit = true
  rw [Bool.or_eq_true, isAlpha_iff, or_assoc]

theorem isName_iff {word : List Char} : Reading.isName word = true ↔ Name word := by
  cases word with
  | nil => exact iff_of_false (by decide) nofun
  | cons c tail =>
      simp only [Reading.isName, Bool.and_eq_true, Bool.or_eq_true, beq_iff_eq,
        List.all_eq_true, isAlpha_iff, isAlphanum_iff, or_assoc]
      constructor
      · rintro ⟨hstart, htail⟩
        exact .intro hstart htail
      · rintro ⟨hstart, htail⟩
        exact ⟨hstart, htail⟩

theorem isUpperName_iff {word : List Char} :
    Reading.isUpperName word = true ↔ UpperName word := by
  cases word with
  | nil => exact iff_of_false (by decide) nofun
  | cons c tail =>
      simp only [Reading.isUpperName, Bool.and_eq_true, Bool.or_eq_true, beq_iff_eq,
        List.all_eq_true, isUpper_iff, or_assoc]
      constructor
      · rintro ⟨hstart, htail⟩
        exact .intro hstart htail
      · rintro ⟨hstart, htail⟩
        exact ⟨hstart, htail⟩

theorem UpperName.name {word : List Char} (h : UpperName word) : Name word := by
  obtain ⟨hstart, htail⟩ := h
  refine .intro (Or.inl hstart) fun d hd => ?_
  rcases htail d hd with hd | hd
  · exact Or.inl hd
  · exact Or.inr (Or.inr hd)

/-- A name starts as a word does. -/
theorem Name.isWordStart {c : Char} {tail : List Char} (h : Name (c :: tail)) :
    isWordStart c = true := by
  obtain ⟨hstart, -⟩ := h
  rw [isWordStart_iff, Unicode.isAlphabetic16, Unicode.Ranges.holds_iff]
  rcases hstart with ⟨hlo, hhi⟩ | ⟨hlo, hhi⟩ | rfl
  · exact Or.inr ⟨(0x41, 0x5A), List.mem_cons_self,
      UInt32.le_iff_toNat_le.mp hlo, UInt32.le_iff_toNat_le.mp hhi⟩
  · exact Or.inr ⟨(0x61, 0x7A), List.mem_cons_of_mem _ List.mem_cons_self,
      UInt32.le_iff_toNat_le.mp hlo, UInt32.le_iff_toNat_le.mp hhi⟩
  · exact Or.inl rfl

-- ── Reserved words ──────────────────────────────────────────────────────────────────

/-- Reserved words would be names if they were not reserved. -/
theorem name_of_ofText? {word : List Char} {reserved : ReservedWord}
    (h : ReservedWord.ofText? (String.ofList word) = some reserved) : Name word := by
  have key : ∀ reserved ∈ ReservedWord.all, Reading.isName reserved.spelling.toList = true := by
    decide +kernel
  obtain ⟨hall, hspelling⟩ := ReservedWord.ofText?_eq_some_iff.mp h
  have hname := key reserved hall
  rw [hspelling, String.toList_ofList] at hname
  exact isName_iff.mp hname

/-- No reserved word is a name in capitals. -/
theorem UpperName.ofText?_eq_none {word : List Char} (h : UpperName word) :
    ReservedWord.ofText? (String.ofList word) = none := by
  have key : ∀ reserved ∈ ReservedWord.all,
      Reading.isUpperName reserved.spelling.toList = false := by
    decide +kernel
  cases hfind : ReservedWord.ofText? (String.ofList word) with
  | none => rfl
  | some reserved =>
      obtain ⟨hall, hspelling⟩ := ReservedWord.ofText?_eq_some_iff.mp hfind
      have hupper := key reserved hall
      rw [hspelling, String.toList_ofList, isUpperName_iff.mpr h] at hupper
      contradiction

-- ── Spellings ───────────────────────────────────────────────────────────────────────

/-- A character that begins no lexeme of the language but, at most, a mark with another one. -/
structure Stray (c : Char) : Prop where
  quote      : c ≠ '"'
  apostrophe : c ≠ '\''
  digit      : c.isDigit = false
  start      : isWordStart c = false
  mark       : ∀ sign : Punctuation, sign.spelling.toList ≠ [c]

/-- A character at a place where no mark starts is not one either. -/
theorem Stray.of_not_prefix {c : Char} {rest : List Char} (hquote : c ≠ '"')
    (hapostrophe : c ≠ '\'') (hdigit : c.isDigit = false) (hstart : isWordStart c = false)
    (hmark : ∀ sign : Punctuation, ¬ sign.spelling.toList <+: c :: rest) : Stray c where
  quote      := hquote
  apostrophe := hapostrophe
  digit      := hdigit
  start      := hstart
  mark       := fun sign h => hmark sign (h ▸ List.prefix_append [c] rest)

/-- `Spells lexeme reading`: this is how the reading is written. -/
inductive Spells : List Char → Reading → Prop where
  | endOfText : Spells [] .endOfText
  | mark (sign : Punctuation) : Spells sign.spelling.toList (.mark sign)
  | keyword (word : Keyword) : Spells word.spelling.toList (.keyword word)
  | truth (value : Bool) : Spells (ReservedWord.truth value).spelling.toList (.boolean value)
  | upperIdentifier {word} (h : UpperName word) : Spells word .upperIdentifier
  | identifier {word} (h : Name word) (hupper : ¬ UpperName word)
      (hreserved : ReservedWord.ofText? (String.ofList word) = none) : Spells word .identifier
  /-- A word that is not a name. -/
  | foreign {c tail} (hstart : isWordStart c = true) (htail : ∀ d ∈ tail, isWordPart d = true)
      (hname : ¬ Name (c :: tail)) :
      Spells (c :: tail) (.error (.invalidIdentifier (String.ofList (c :: tail))))
  | integer {digits} (hne : digits ≠ []) (hdigits : ∀ c ∈ digits, c.isDigit = true)
      (hrange : Decimal.ofDigits digits ≤ Reading.greatestInteger) :
      Spells digits (.integer (Decimal.ofDigits digits))
  | outOfRange {digits} (hne : digits ≠ []) (hdigits : ∀ c ∈ digits, c.isDigit = true)
      (hrange : Reading.greatestInteger < Decimal.ofDigits digits) :
      Spells digits (.error (.invalidNumber (String.ofList digits)))
  | real {whole fraction} (hne : whole ≠ []) (hwhole : ∀ c ∈ whole, c.isDigit = true)
      (hne' : fraction ≠ []) (hfraction : ∀ c ∈ fraction, c.isDigit = true) :
      Spells (whole ++ '.' :: fraction)
        (.real (Binary64.ofDecimal
          ⟨Decimal.ofDigits (whole ++ fraction), -(fraction.length : Int)⟩))
  | string {content} (hcontent : '"' ∉ content) :
      Spells ('"' :: (content ++ ['"'])) (.string (String.ofList content))
  | openString {content} (hcontent : '"' ∉ content) :
      Spells ('"' :: content) (.error .unterminatedString)
  | character (c) : Spells ['\'', c, '\''] (.character c)
  | openCharacter {rest} (hshort : rest.length ≤ 1) :
      Spells ('\'' :: rest) (.error (.malformedCharacter (String.ofList ('\'' :: rest))))
  | letter {c} (h : Stray c) (hletter : Unicode.isAlphabetic17 c = true) :
      Spells [c] (.error (.invalidIdentifier (String.ofList [c])))
  | stray {c} (h : Stray c) (hletter : Unicode.isAlphabetic17 c = false) :
      Spells [c] (.error (.unexpectedCharacter c))

-- ── A lexeme is read as what it spells ──────────────────────────────────────────────

theorem ofLexeme_number {c : Char} {rest : List Char} (hc : c.isDigit = true) :
    Reading.ofLexeme (c :: rest) = Reading.ofNumber (c :: rest) := by
  have hquote : c ≠ '"' := by
    rintro rfl
    exact absurd hc (by decide)
  have hapostrophe : c ≠ '\'' := by
    rintro rfl
    exact absurd hc (by decide)
  have hfarewell : c :: rest ≠ farewell := by
    intro h
    obtain rfl : c = 'a' := (List.cons.inj h).1
    exact absurd hc (by decide)
  rw [Reading.ofLexeme_of_ne hquote hapostrophe, if_neg hfarewell, if_pos hc]

theorem ofLexeme_word {c : Char} {tail : List Char} (hstart : isWordStart c = true)
    (hfarewell : c :: tail ≠ farewell) :
    Reading.ofLexeme (c :: tail) = Reading.ofWord (c :: tail) := by
  have hquote : c ≠ '"' := by
    rintro rfl
    exact absurd hstart (by decide)
  have hapostrophe : c ≠ '\'' := by
    rintro rfl
    exact absurd hstart (by decide)
  have hdigit : ¬ c.isDigit = true := by
    intro h
    rw [isWordStart_of_isDigit h] at hstart
    contradiction
  rw [Reading.ofLexeme_of_ne hquote hapostrophe, if_neg hfarewell, if_neg hdigit, if_pos hstart]

theorem ofLexeme_name {word : List Char} (h : Name word) :
    Reading.ofLexeme word = Reading.ofWord word := by
  have hfarewell : word ≠ farewell := by
    rintro rfl
    exact absurd (isName_iff.mpr h) (by decide)
  cases word with
  | nil => exact nomatch h
  | cons c tail => exact ofLexeme_word h.isWordStart hfarewell

/-- A word that is not a name is an error. -/
theorem ofLexeme_foreign {c : Char} {tail : List Char} (hstart : isWordStart c = true)
    (htail : ∀ d ∈ tail, isWordPart d = true) (hname : ¬ Name (c :: tail)) :
    Reading.ofLexeme (c :: tail) =
      .error (.invalidIdentifier (String.ofList (c :: tail))) := by
  have hfarewell : c :: tail ≠ farewell := by
    intro h
    obtain rfl : tail = "dios:(".toList := (List.cons.inj h).2
    exact absurd (htail ':' (by decide)) (by decide)
  have hreserved : ReservedWord.ofText? (String.ofList (c :: tail)) = none := by
    cases hfind : ReservedWord.ofText? (String.ofList (c :: tail)) with
    | none => rfl
    | some reserved => exact absurd (name_of_ofText? hfind) hname
  have hupper : ¬ UpperName (c :: tail) := fun h => hname h.name
  rw [ofLexeme_word hstart hfarewell, Reading.ofWord, hreserved]
  exact (if_neg (mt isUpperName_iff.mp hupper)).trans (if_neg (mt isName_iff.mp hname))

theorem ofLexeme_integer {digits : List Char} (hne : digits ≠ [])
    (hdigits : ∀ c ∈ digits, c.isDigit = true) :
    Reading.ofLexeme digits =
      if Decimal.ofDigits digits ≤ Reading.greatestInteger then .integer (Decimal.ofDigits digits)
      else .error (.invalidNumber (String.ofList digits)) := by
  have hwhole : digits.takeWhile Char.isDigit = digits := List.takeWhile_eq_self_iff.mpr hdigits
  have hrest : digits.dropWhile Char.isDigit = [] := List.dropWhile_eq_nil_iff.mpr hdigits
  obtain ⟨c, rest, rfl⟩ := List.exists_cons_of_ne_nil hne
  rw [ofLexeme_number (hdigits c List.mem_cons_self), Reading.ofNumber, hwhole, hrest]

theorem ofLexeme_real {whole fraction : List Char} (hne : whole ≠ [])
    (hwhole : ∀ c ∈ whole, c.isDigit = true) :
    Reading.ofLexeme (whole ++ '.' :: fraction) =
      .real (Binary64.ofDecimal
        ⟨Decimal.ofDigits (whole ++ fraction), -(fraction.length : Int)⟩) := by
  have htake : (whole ++ '.' :: fraction).takeWhile Char.isDigit = whole := by
    rw [List.takeWhile_append_of_pos hwhole, List.takeWhile_cons_of_neg (by decide),
      List.append_nil]
  have hdrop : (whole ++ '.' :: fraction).dropWhile Char.isDigit = '.' :: fraction := by
    rw [List.dropWhile_append_of_pos hwhole, List.dropWhile_cons_of_neg (by decide)]
  obtain ⟨c, rest, rfl⟩ := List.exists_cons_of_ne_nil hne
  rw [List.cons_append] at htake hdrop ⊢
  rw [ofLexeme_number (hwhole c List.mem_cons_self), Reading.ofNumber, htake, hdrop]
  rfl

theorem Stray.ofLexeme {c : Char} (h : Stray c) :
    Reading.ofLexeme [c] =
      if Unicode.isAlphabetic17 c then .error (.invalidIdentifier (String.ofList [c]))
      else .error (.unexpectedCharacter c) := by
  have hfarewell : [c] ≠ farewell := by
    intro hc
    have hlength : 1 = farewell.length := congrArg List.length hc
    exact absurd hlength (by decide)
  have hmark : Punctuation.ofSpelling? [c] = none := by
    cases hfind : Punctuation.ofSpelling? [c] with
    | none => rfl
    | some sign => exact absurd (Punctuation.ofSpelling?_eq_some_iff.mp hfind) (h.mark sign)
  rw [Reading.ofLexeme_of_ne h.quote h.apostrophe, if_neg hfarewell, h.digit, h.start,
    Reading.ofMark, hmark]
  rfl

/-- **A lexeme is read as what it spells.** -/
theorem ofLexeme_of_spells {lexeme : List Char} {reading : Reading} (h : Spells lexeme reading) :
    Reading.ofLexeme lexeme = reading := by
  cases h with
  | endOfText => rfl
  | mark sign =>
      have key : ∀ sign ∈ Punctuation.all,
          Reading.ofLexeme sign.spelling.toList = .mark sign := by
        decide +kernel
      exact key sign (Punctuation.mem_all sign)
  | keyword word =>
      have key : ∀ word ∈ Keyword.all, Reading.ofLexeme word.spelling.toList = .keyword word := by
        decide +kernel
      exact key word (Keyword.mem_all word)
  | truth value => cases value <;> decide +kernel
  | upperIdentifier h =>
      rw [ofLexeme_name h.name, Reading.ofWord, h.ofText?_eq_none]
      exact if_pos (isUpperName_iff.mpr h)
  | identifier h hupper hreserved =>
      rw [ofLexeme_name h, Reading.ofWord, hreserved]
      exact (if_neg (mt isUpperName_iff.mp hupper)).trans (if_pos (isName_iff.mpr h))
  | foreign hstart htail hname => exact ofLexeme_foreign hstart htail hname
  | integer hne hdigits hrange => rw [ofLexeme_integer hne hdigits, if_pos hrange]
  | outOfRange hne hdigits hrange =>
      rw [ofLexeme_integer hne hdigits, if_neg (Nat.not_le.mpr hrange)]
  | real hne hwhole => exact ofLexeme_real hne hwhole
  | string => rw [Reading.ofLexeme, if_pos (by simp), List.dropLast_concat]
  | openString hcontent => rw [Reading.ofLexeme, if_neg hcontent]
  | character => rfl
  | @openCharacter rest hshort =>
      rcases rest with _ | ⟨c, _ | ⟨d, rest⟩⟩
      · rfl
      · rfl
      · simp at hshort
  | letter h hletter => rw [h.ofLexeme, if_pos hletter]
  | stray h hletter => rw [h.ofLexeme, hletter]; rfl

/-- No lexeme spells two readings. -/
theorem Spells.unique {lexeme : List Char} {a b : Reading} (ha : Spells lexeme a)
    (hb : Spells lexeme b) : a = b :=
  (ofLexeme_of_spells ha).symm.trans (ofLexeme_of_spells hb)

/-- Only the empty lexeme is the end of the text. -/
theorem Spells.kind_ne_eof {lexeme : List Char} {reading : Reading} (h : Spells lexeme reading)
    (hne : lexeme ≠ []) : reading.kind ≠ .eof := by
  intro hkind
  cases h with
  | endOfText => exact hne rfl
  | _ => cases hkind

-- ── What is cut off a text spells something ─────────────────────────────────────────

/-- A word spells something, whatever stands behind it. -/
theorem spells_word {c : Char} {tail : List Char} (hstart : isWordStart c = true)
    (htail : ∀ d ∈ tail, isWordPart d = true) : ∃ reading, Spells (c :: tail) reading := by
  cases hfind : ReservedWord.ofText? (String.ofList (c :: tail)) with
  | some reserved =>
      obtain ⟨-, hspelling⟩ := ReservedWord.ofText?_eq_some_iff.mp hfind
      have hword : reserved.spelling.toList = c :: tail := by
        rw [hspelling, String.toList_ofList]
      rw [← hword]
      cases reserved with
      | keyword word => exact ⟨_, .keyword word⟩
      | truth value => exact ⟨_, .truth value⟩
  | none =>
      by_cases hname : Name (c :: tail)
      · by_cases hupper : UpperName (c :: tail)
        · exact ⟨_, .upperIdentifier hupper⟩
        · exact ⟨_, .identifier hname hupper hfind⟩
      · exact ⟨_, .foreign hstart htail hname⟩

/-- **Every lexeme that is cut off a text spells its reading.** -/
theorem Cut.spells {lexeme rest : List Char} (h : Cut lexeme rest) :
    Spells lexeme (Reading.ofLexeme lexeme) := by
  obtain ⟨reading, hreading⟩ : ∃ reading, Spells lexeme reading := by
    cases h with
    | string hcontent => exact ⟨_, .string hcontent⟩
    | openString hcontent => exact ⟨_, .openString hcontent⟩
    | character c => exact ⟨_, .character c⟩
    | @openCharacter c => exact ⟨_, @Spells.openCharacter [c] (Nat.le_refl 1)⟩
    | apostrophe => exact ⟨_, @Spells.openCharacter [] (Nat.zero_le 1)⟩
    | farewell => exact ⟨_, .keyword .adiosTriste⟩
    | integer hne hdigits =>
        rcases Nat.lt_or_ge Reading.greatestInteger (Decimal.ofDigits lexeme) with hrange | hrange
        · exact ⟨_, .outOfRange hne hdigits hrange⟩
        · exact ⟨_, .integer hne hdigits hrange⟩
    | real hne hwhole hne' hfraction => exact ⟨_, .real hne hwhole hne' hfraction⟩
    | word hstart htail => exact spells_word hstart htail
    | @mark sign => exact ⟨_, .mark sign⟩
    | @stray c rest hquote hapostrophe hdigit hstart hmark =>
        have hstray := Stray.of_not_prefix hquote hapostrophe hdigit hstart hmark
        cases hletter : Unicode.isAlphabetic17 c with
        | true => exact ⟨_, .letter hstray hletter⟩
        | false => exact ⟨_, .stray hstray hletter⟩
  rw [ofLexeme_of_spells hreading]
  exact hreading

end KindLex.Lexeme
