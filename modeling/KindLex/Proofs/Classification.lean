import KindLex.Proofs.Binary64.Nearest
import KindLex.Proofs.Lexeme.Spelling
import KindLex.Proofs.Scanner.Reachable

/-!
# A lexeme determines its token

The kind and the value of a token are set apart from each other, and callers ask either of them
whether the token is an error.  This file shows that both follow from the lexeme: which lexemes
make which kind, which value goes with which lexeme, and that the two tests for errors agree.

* **`tokenize_classified`**: for every token of every source.
-/

namespace KindLex

open Lexeme Scanner

/-- Which lexemes make which kind of token. -/
structure KindLaw (t : Token) : Prop where
  string : t.kind = .string ↔ ∃ w, '"' ∉ w ∧ t.lexeme.toList = '"' :: (w ++ ['"'])
  character : t.kind = .character ↔ ∃ c, t.lexeme.toList = ['\'', c, '\'']
  boolean : t.kind = .boolean ↔ t.lexeme = "true" ∨ t.lexeme = "false"
  keyword : ∀ word, t.kind = .keyword word ↔ t.lexeme = word.spelling
  /-- The keywords that are words are those of the table of reserved words. -/
  reserved : ∀ word, word ≠ .adiosTriste →
    (t.kind = .keyword word ↔ ReservedWord.ofText? t.lexeme = some (.keyword word))
  farewell : t.kind = .keyword .adiosTriste ↔ t.lexeme = "adios:("
  upperIdentifier : t.kind = .upperIdentifier ↔ UpperName t.lexeme.toList
  identifier : t.kind = .identifier ↔ Name t.lexeme.toList ∧
    ReservedWord.ofText? t.lexeme = none ∧ ¬ UpperName t.lexeme.toList
  integer : t.kind = .integer ↔ t.lexeme.toList ≠ [] ∧
    (∀ c ∈ t.lexeme.toList, c.isDigit = true) ∧
    Decimal.ofDigits t.lexeme.toList ≤ Reading.greatestInteger
  real : t.kind = .real ↔ ∃ whole fraction, t.lexeme.toList = whole ++ '.' :: fraction ∧
    whole ≠ [] ∧ (∀ c ∈ whole, c.isDigit = true) ∧
    fraction ≠ [] ∧ ∀ c ∈ fraction, c.isDigit = true
  punctuation : ∀ sign, t.kind = .punctuation sign ↔ t.lexeme = sign.spelling
  eof : t.kind = .eof ↔ t.lexeme = ""

/-- Which value goes with which lexeme. -/
structure LiteralLaw (t : Token) : Prop where
  /-- What stands between the quotes, unchanged. -/
  string : ∀ w, '"' ∉ w → t.lexeme.toList = '"' :: (w ++ ['"']) →
    t.literal = some (.string (String.ofList w))
  character : ∀ c, t.lexeme.toList = ['\'', c, '\''] → t.literal = some (.character c)
  truth : t.lexeme = "true" → t.literal = some (.boolean true)
  falsehood : t.lexeme = "false" → t.literal = some (.boolean false)
  integer : t.kind = .integer →
    t.literal = some (.integer (Decimal.ofDigits t.lexeme.toList))
  real : t.kind = .real →
    ∃ value, t.literal = some (.real value) ∧ value.isNaN = false ∧ value.isNegative = false
  /-- Marks, keywords, names and the end have no value, and nothing else has none. -/
  none : t.literal = none ↔ (∃ sign, t.kind = .punctuation sign) ∨ (∃ word, t.kind = .keyword word) ∨
    t.kind = .identifier ∨ t.kind = .upperIdentifier ∨ t.kind = .eof
  error : t.kind = .error ↔ ∃ cause, t.literal = some (.error cause)
  /-- An error that names a text names the lexeme. -/
  payload : ∀ cause, t.literal = some (.error cause) →
    cause = .unterminatedString ∨ cause = .malformedCharacter t.lexeme ∨
    cause = .invalidIdentifier t.lexeme ∨ cause = .invalidNumber t.lexeme ∨
    ∃ c, cause = .unexpectedCharacter c ∧ t.lexeme.toList = [c]

/-- Everything that the lexeme of a token determines. -/
structure Classified (t : Token) : Prop where
  kind    : KindLaw t
  literal : LiteralLaw t
  /-- A token with the same lexeme, in whatever source, has the same kind and the same value. -/
  unique  : ∀ source u, u ∈ tokenize source → u.lexeme = t.lexeme →
    u.kind = t.kind ∧ u.literal = t.literal
  /-- Both ways to ask for an error give one answer. -/
  isError : t.isError = t.error?.isSome

-- ── Kinds ───────────────────────────────────────────────────────────────────────────

section Kinds

variable {lexeme : List Char} {reading : Reading} (h : Spells lexeme reading)
include h

theorem kind_eq_string_iff :
    reading.kind = .string ↔ ∃ w, '"' ∉ w ∧ lexeme = '"' :: (w ++ ['"']) := by
  constructor
  · intro hkind
    cases h with
    | string hcontent => exact ⟨_, hcontent, rfl⟩
    | _ => cases hkind
  · rintro ⟨w, hw, rfl⟩
    rw [h.unique (.string hw)]
    rfl

theorem kind_eq_character_iff :
    reading.kind = .character ↔ ∃ c, lexeme = ['\'', c, '\''] := by
  constructor
  · intro hkind
    cases h with
    | character c => exact ⟨c, rfl⟩
    | _ => cases hkind
  · rintro ⟨c, rfl⟩
    rw [h.unique (.character c)]
    rfl

theorem kind_eq_boolean_iff :
    reading.kind = .boolean ↔ ∃ value, lexeme = (ReservedWord.truth value).spelling.toList := by
  constructor
  · intro hkind
    cases h with
    | truth value => exact ⟨value, rfl⟩
    | _ => cases hkind
  · rintro ⟨value, rfl⟩
    rw [h.unique (.truth value)]
    rfl

theorem kind_eq_keyword_iff (word : Keyword) :
    reading.kind = .keyword word ↔ lexeme = word.spelling.toList := by
  constructor
  · intro hkind
    cases h with
    | keyword word => cases hkind; rfl
    | _ => cases hkind
  · rintro rfl
    rw [h.unique (.keyword word)]
    rfl

theorem kind_eq_upperIdentifier_iff : reading.kind = .upperIdentifier ↔ UpperName lexeme := by
  constructor
  · intro hkind
    cases h with
    | upperIdentifier hname => exact hname
    | _ => cases hkind
  · intro hname
    rw [h.unique (.upperIdentifier hname)]
    rfl

theorem kind_eq_identifier_iff :
    reading.kind = .identifier ↔ Name lexeme ∧
      ReservedWord.ofText? (String.ofList lexeme) = none ∧ ¬ UpperName lexeme := by
  constructor
  · intro hkind
    cases h with
    | identifier hname hupper hreserved => exact ⟨hname, hreserved, hupper⟩
    | _ => cases hkind
  · rintro ⟨hname, hreserved, hupper⟩
    rw [h.unique (.identifier hname hupper hreserved)]
    rfl

theorem kind_eq_integer_iff :
    reading.kind = .integer ↔ lexeme ≠ [] ∧ (∀ c ∈ lexeme, c.isDigit = true) ∧
      Decimal.ofDigits lexeme ≤ Reading.greatestInteger := by
  constructor
  · intro hkind
    cases h with
    | integer hne hdigits hrange => exact ⟨hne, hdigits, hrange⟩
    | _ => cases hkind
  · rintro ⟨hne, hdigits, hrange⟩
    rw [h.unique (.integer hne hdigits hrange)]
    rfl

theorem kind_eq_real_iff :
    reading.kind = .real ↔ ∃ whole fraction, lexeme = whole ++ '.' :: fraction ∧
      whole ≠ [] ∧ (∀ c ∈ whole, c.isDigit = true) ∧
      fraction ≠ [] ∧ ∀ c ∈ fraction, c.isDigit = true := by
  constructor
  · intro hkind
    cases h with
    | real hne hwhole hne' hfraction => exact ⟨_, _, rfl, hne, hwhole, hne', hfraction⟩
    | _ => cases hkind
  · rintro ⟨whole, fraction, rfl, hne, hwhole, hne', hfraction⟩
    rw [h.unique (.real hne hwhole hne' hfraction)]
    rfl

theorem kind_eq_punctuation_iff (sign : Punctuation) :
    reading.kind = .punctuation sign ↔ lexeme = sign.spelling.toList := by
  constructor
  · intro hkind
    cases h with
    | mark sign => cases hkind; rfl
    | _ => cases hkind
  · rintro rfl
    rw [h.unique (.mark sign)]
    rfl

theorem kind_eq_eof_iff : reading.kind = .eof ↔ lexeme = [] := by
  constructor
  · intro hkind
    by_contra hne
    exact h.kind_ne_eof hne hkind
  · rintro rfl
    rw [h.unique .endOfText]
    rfl

end Kinds

/-- The kinds of a token whose lexeme spells its reading. -/
theorem kindLaw_of_spells {t : Token} {reading : Reading} (h : Spells t.lexeme.toList reading)
    (hkind : t.kind = reading.kind) : KindLaw t where
  string := by rw [hkind, kind_eq_string_iff h]
  character := by rw [hkind, kind_eq_character_iff h]
  boolean := by
    rw [hkind, kind_eq_boolean_iff h, ← String.toList_inj, ← String.toList_inj]
    constructor
    · rintro ⟨value, hvalue⟩
      cases value with
      | true => exact Or.inl hvalue
      | false => exact Or.inr hvalue
    · rintro (htrue | hfalse)
      · exact ⟨true, htrue⟩
      · exact ⟨false, hfalse⟩
  keyword word := by rw [hkind, kind_eq_keyword_iff h, String.toList_inj]
  reserved word hword := by
    rw [hkind, kind_eq_keyword_iff h, ReservedWord.ofText?_eq_some_iff, String.toList_inj]
    constructor
    · intro hspelling
      exact ⟨ReservedWord.keyword_mem_all.mpr hword, hspelling.symm⟩
    · rintro ⟨-, hspelling⟩
      exact hspelling.symm
  farewell := by
    rw [hkind, kind_eq_keyword_iff h, String.toList_inj]
    rfl
  upperIdentifier := by rw [hkind, kind_eq_upperIdentifier_iff h]
  identifier := by rw [hkind, kind_eq_identifier_iff h, String.ofList_toList]
  integer := by rw [hkind, kind_eq_integer_iff h]
  real := by rw [hkind, kind_eq_real_iff h]
  punctuation sign := by rw [hkind, kind_eq_punctuation_iff h, String.toList_inj]
  eof := by rw [hkind, kind_eq_eof_iff h, String.toList_eq_nil_iff]

-- ── Values ──────────────────────────────────────────────────────────────────────────

theorem literal_eq_none_iff (reading : Reading) :
    reading.literal = none ↔
      (∃ sign, reading.kind = .punctuation sign) ∨ (∃ word, reading.kind = .keyword word) ∨
      reading.kind = .identifier ∨ reading.kind = .upperIdentifier ∨ reading.kind = .eof := by
  cases reading <;> simp [Reading.literal, Reading.kind]

theorem kind_eq_error_iff (reading : Reading) :
    reading.kind = .error ↔ ∃ cause, reading.literal = some (.error cause) := by
  cases reading <;> simp [Reading.literal, Reading.kind]

section Values

variable {lexeme : List Char} {reading : Reading} (h : Spells lexeme reading)
include h

theorem literal_of_kind_eq_integer (hkind : reading.kind = .integer) :
    reading.literal = some (.integer (Decimal.ofDigits lexeme)) := by
  cases h with
  | integer => rfl
  | _ => cases hkind

/-- A real is a number, and not negative. -/
theorem literal_of_kind_eq_real (hkind : reading.kind = .real) :
    ∃ value, reading.literal = some (.real value) ∧
      value.isNaN = false ∧ value.isNegative = false := by
  cases h with
  | real =>
      exact ⟨_, rfl, Binary64.isNaN_ofDecimal _, Binary64.isNegative_ofDecimal _⟩
  | _ => cases hkind

theorem cause_of_literal_eq_error {cause : LexicalError}
    (hliteral : reading.literal = some (.error cause)) :
    cause = .unterminatedString ∨ cause = .malformedCharacter (String.ofList lexeme) ∨
      cause = .invalidIdentifier (String.ofList lexeme) ∨
      cause = .invalidNumber (String.ofList lexeme) ∨
      ∃ c, cause = .unexpectedCharacter c ∧ lexeme = [c] := by
  cases h with
  | openString => cases hliteral; exact Or.inl rfl
  | openCharacter => cases hliteral; exact Or.inr (Or.inl rfl)
  | foreign | letter => cases hliteral; exact Or.inr (Or.inr (Or.inl rfl))
  | outOfRange => cases hliteral; exact Or.inr (Or.inr (Or.inr (Or.inl rfl)))
  | stray => cases hliteral; exact Or.inr (Or.inr (Or.inr (Or.inr ⟨_, rfl, rfl⟩)))
  | _ => cases hliteral

end Values

/-- The value of a token whose lexeme spells its reading. -/
theorem literalLaw_of_spells {t : Token} {reading : Reading} (h : Spells t.lexeme.toList reading)
    (hkind : t.kind = reading.kind) (hliteral : t.literal = reading.literal) : LiteralLaw t where
  string w hw hlexeme := by
    rw [hlexeme] at h
    rw [hliteral, h.unique (.string hw)]
    rfl
  character c hlexeme := by
    rw [hlexeme] at h
    rw [hliteral, h.unique (.character c)]
    rfl
  truth hlexeme := by
    rw [hlexeme] at h
    rw [hliteral, h.unique (.truth true)]
    rfl
  falsehood hlexeme := by
    rw [hlexeme] at h
    rw [hliteral, h.unique (.truth false)]
    rfl
  integer := by
    rw [hkind, hliteral]
    exact literal_of_kind_eq_integer h
  real := by
    rw [hkind, hliteral]
    exact literal_of_kind_eq_real h
  none := by
    rw [hkind, hliteral]
    exact literal_eq_none_iff reading
  error := by
    rw [hkind, hliteral]
    exact kind_eq_error_iff reading
  payload cause hcause := by
    have hpayload := cause_of_literal_eq_error h (hliteral.symm.trans hcause)
    rwa [String.ofList_toList] at hpayload

-- ── Tokens ──────────────────────────────────────────────────────────────────────────

/-- A token of a source is made of its lexeme, and its lexeme spells its reading. -/
theorem spells_of_mem {source : String} {t : Token} (h : t ∈ tokenize source) :
    Spells t.lexeme.toList (Reading.ofLexeme t.lexeme.toList) ∧
      t.kind = (Reading.ofLexeme t.lexeme.toList).kind ∧
      t.literal = (Reading.ofLexeme t.lexeme.toList).literal := by
  obtain ⟨lexeme, line, hspells, rfl⟩ : ∃ lexeme line,
      Spells lexeme (Reading.ofLexeme lexeme) ∧ t = Token.ofLexeme lexeme line := by
    obtain ⟨k, hk⟩ := List.mem_iff_getElem?.mp h
    obtain ⟨s, -, ⟨hrest, hturn⟩ | ⟨-, rfl, -⟩⟩ :=
      exists_reachable_of_yields (yields_tokenize source) .start hk
    · obtain ⟨lexeme, hcut, -, rfl⟩ := cut_of_turn_eq_some hrest hturn
      exact ⟨lexeme, _, hcut.spells, rfl⟩
    · exact ⟨[], _, .endOfText, rfl⟩
  rw [Token.toList_lexeme_ofLexeme]
  exact ⟨hspells, rfl, rfl⟩

theorem isError_eq_of_error_iff {t : Token}
    (h : t.kind = .error ↔ ∃ cause, t.literal = some (.error cause)) :
    t.isError = t.error?.isSome := by
  rw [Bool.eq_iff_iff, Token.isError, beq_iff_eq, h, Option.isSome_iff_exists]
  exact exists_congr fun _ => Token.error?_eq_some_iff.symm

/-- Both ways to ask a token of a source for an error give one answer. -/
theorem isError_of_mem {source : String} {t : Token} (h : t ∈ tokenize source) :
    t.isError = t.error?.isSome := by
  obtain ⟨hspells, hkind, hliteral⟩ := spells_of_mem h
  exact isError_eq_of_error_iff (literalLaw_of_spells hspells hkind hliteral).error

theorem isError_iff {t : Token} : t.isError = true ↔ t.kind = .error := by
  rw [Token.isError, beq_iff_eq]

/-- A token of a source has no error exactly if its kind is another one. -/
theorem error?_eq_none_iff {source : String} {t : Token} (h : t ∈ tokenize source) :
    t.error? = none ↔ t.kind ≠ .error := by
  rw [ne_eq, ← isError_iff, isError_of_mem h, Option.isSome_iff_ne_none, not_ne_iff]

/-- **A lexeme determines its token**, for every token of every source. -/
theorem tokenize_classified (source : String) (t : Token) (h : t ∈ tokenize source) :
    Classified t := by
  obtain ⟨hspells, hkind, hliteral⟩ := spells_of_mem h
  have hlaw := literalLaw_of_spells hspells hkind hliteral
  refine ⟨kindLaw_of_spells hspells hkind, hlaw, ?_, isError_eq_of_error_iff hlaw.error⟩
  intro other u hu hlexeme
  obtain ⟨-, hkind', hliteral'⟩ := spells_of_mem hu
  rw [hkind', hliteral', hkind, hliteral, hlexeme]
  exact ⟨rfl, rfl⟩

/-- The number that ends `x = 2.5`. -/
theorem tokenize_classified_real :
    (⟨.real, "2.5", some (.real ⟨0x4004000000000000⟩), 1⟩ : Token) ∈ tokenize "x = 2.5" ∧
      Classified ⟨.real, "2.5", some (.real ⟨0x4004000000000000⟩), 1⟩ := by
  have hmem : (⟨.real, "2.5", some (.real ⟨0x4004000000000000⟩), 1⟩ : Token) ∈
      tokenize "x = 2.5" := by
    decide +kernel
  exact ⟨hmem, tokenize_classified _ _ hmem⟩

end KindLex
