import KindLex.Proofs.Lexeme.Spelling

/-!
# The lexical grammar

The texts that are lexemes of the language, said by their spelling alone, and the rule that picks
one of them at a place of a text: the longest.  Where no lexeme of the language starts, a text is
rejected, and how much of it goes into the error depends on its first character.

* **`Grammar`**: the operators and brackets, numbers, words, strings, character literals and the
  farewell.
* **`Cut.length_le`**: a cut behind a lexeme of the language takes the longest one there is.
* **`Cut.grammar_or_rejected`**: any other cut is at a place where no lexeme of the language starts.
-/

namespace KindLex.Lexeme

/-- The operators and brackets. -/
def operators : List String :=
  ["(", ")", "\x7b", "\x7d", "[", "]", ",", ".", "-", "+", "*", "%", "/",
   ":", ":)", "=", "==", "<", "<=", ">", ">=", "!=", "&&", "||"]

/-- The lexemes of the language. -/
inductive Grammar : List Char → Prop where
  | operator {sign : String} (h : sign ∈ operators) : Grammar sign.toList
  | farewell : Grammar "adios:(".toList
  | integer {digits} (hne : digits ≠ []) (hdigits : ∀ c ∈ digits, c.isDigit = true) :
      Grammar digits
  | real {whole fraction} (hne : whole ≠ []) (hwhole : ∀ c ∈ whole, c.isDigit = true)
      (hne' : fraction ≠ []) (hfraction : ∀ c ∈ fraction, c.isDigit = true) :
      Grammar (whole ++ '.' :: fraction)
  /-- A letter or `_`, and then letters, numbers and `_`. -/
  | word {c tail} (hstart : c = '_' ∨ Unicode.isAlphabetic16 c = true)
      (htail : ∀ d ∈ tail,
        d = '_' ∨ Unicode.isAlphabetic16 d = true ∨ Unicode.isNumber16 d = true) :
      Grammar (c :: tail)
  | string {content} (hcontent : '"' ∉ content) : Grammar ('"' :: (content ++ ['"']))
  | character (c) : Grammar ['\'', c, '\'']

/-- `Rejected text lexeme cause`: at a place from where no lexeme of the language starts, `lexeme`
    is what goes into the error, and `cause` what is wrong with it. -/
inductive Rejected : (text lexeme : List Char) → (cause : LexicalError) → Prop where
  /-- The whole text, when no quote closes the one at its start. -/
  | string (rest) : Rejected ('"' :: rest) ('"' :: rest) .unterminatedString
  /-- An apostrophe and the character behind it, if there is one. -/
  | character (rest) :
      Rejected ('\'' :: rest) ('\'' :: rest.take 1)
        (.malformedCharacter (String.ofList ('\'' :: rest.take 1)))
  | letter {c} (rest) (hquote : c ≠ '"') (hapostrophe : c ≠ '\'')
      (hletter : Unicode.isAlphabetic17 c = true) :
      Rejected (c :: rest) [c] (.invalidIdentifier (String.ofList [c]))
  | other {c} (rest) (hquote : c ≠ '"') (hapostrophe : c ≠ '\'')
      (hletter : Unicode.isAlphabetic17 c = false) :
      Rejected (c :: rest) [c] (.unexpectedCharacter c)

-- ── The first character tells the sort of a lexeme ──────────────────────────────────

/-- The operators and brackets are the marks. -/
theorem mem_operators_iff {text : String} :
    text ∈ operators ↔ ∃ sign : Punctuation, sign.spelling = text := by
  have hmarks : ∀ text ∈ operators, ∃ sign ∈ Punctuation.all, sign.spelling = text := by
    decide +kernel
  have hoperators : ∀ sign ∈ Punctuation.all, sign.spelling ∈ operators := by
    decide +kernel
  constructor
  · intro h
    obtain ⟨sign, -, hsign⟩ := hmarks text h
    exact ⟨sign, hsign⟩
  · rintro ⟨sign, rfl⟩
    exact hoperators sign (Punctuation.mem_all sign)

/-- The lexemes of the language, one sort after the other, each with its first character. -/
theorem Grammar.sorts {c : Char} {rest : List Char} (h : Grammar (c :: rest)) :
    (c = '"' ∧ ∃ content, rest = content ++ ['"'] ∧ '"' ∉ content) ∨
    (c = '\'' ∧ ∃ d, rest = [d, '\'']) ∨
    (c.isDigit = true ∧ ((∀ d ∈ c :: rest, d.isDigit = true) ∨
      ∃ whole fraction, c :: rest = whole ++ '.' :: fraction ∧
        (∀ d ∈ whole, d.isDigit = true) ∧ fraction ≠ [] ∧ ∀ d ∈ fraction, d.isDigit = true)) ∨
    (isWordStart c = true ∧
      (c :: rest = Lexeme.farewell ∨ ∀ d ∈ c :: rest, isWordPart d = true)) ∨
    ∃ sign : Punctuation, sign.spelling.toList = c :: rest := by
  generalize htext : c :: rest = text at h
  cases h with
  | string hcontent =>
      obtain ⟨rfl, rfl⟩ := List.cons.inj htext
      exact Or.inl ⟨rfl, _, rfl, hcontent⟩
  | character d =>
      obtain ⟨rfl, rfl⟩ := List.cons.inj htext
      exact Or.inr (Or.inl ⟨rfl, d, rfl⟩)
  | integer _ hdigits =>
      have hc := hdigits c (htext ▸ List.mem_cons_self)
      exact Or.inr (Or.inr (Or.inl ⟨hc, Or.inl (htext ▸ hdigits)⟩))
  | @real whole fraction hne hwhole hne' hfraction =>
      cases whole with
      | nil => contradiction
      | cons d whole =>
          obtain ⟨rfl, rfl⟩ := List.cons.inj htext
          exact Or.inr (Or.inr (Or.inl ⟨hwhole c List.mem_cons_self,
            Or.inr ⟨_, fraction, rfl, hwhole, hne', hfraction⟩⟩))
  | farewell =>
      obtain ⟨rfl, rfl⟩ := List.cons.inj htext
      exact Or.inr (Or.inr (Or.inr (Or.inl ⟨by decide, Or.inl rfl⟩)))
  | word hstart htail =>
      obtain ⟨rfl, rfl⟩ := List.cons.inj htext
      have hc := (isWordStart_iff c).mpr hstart
      refine Or.inr (Or.inr (Or.inr (Or.inl ⟨hc, Or.inr ?_⟩)))
      intro d hd
      rcases List.mem_cons.mp hd with rfl | hd
      · simp [isWordPart, hc]
      · exact (isWordPart_iff d).mpr (htail d hd)
  | operator hsign =>
      obtain ⟨sign, rfl⟩ := mem_operators_iff.mp hsign
      exact Or.inr (Or.inr (Or.inr (Or.inr ⟨sign, rfl⟩)))

/-- What starts with a quote is a string. -/
theorem Grammar.of_quote {rest : List Char} (h : Grammar ('"' :: rest)) :
    ∃ content, rest = content ++ ['"'] ∧ '"' ∉ content := by
  rcases h.sorts with ⟨-, h⟩ | ⟨h, -⟩ | ⟨h, -⟩ | ⟨h, -⟩ | ⟨sign, h⟩
  · exact h
  · exact absurd h (by decide)
  · exact absurd h (by decide)
  · exact absurd h (by decide)
  · exact absurd rfl (spelling_head sign '"' (by rw [h]; rfl)).1

/-- What starts with an apostrophe is a character literal. -/
theorem Grammar.of_apostrophe {rest : List Char} (h : Grammar ('\'' :: rest)) :
    ∃ c, rest = [c, '\''] := by
  rcases h.sorts with ⟨h, -⟩ | ⟨-, h⟩ | ⟨h, -⟩ | ⟨h, -⟩ | ⟨sign, h⟩
  · exact absurd h (by decide)
  · exact h
  · exact absurd h (by decide)
  · exact absurd h (by decide)
  · exact absurd rfl (spelling_head sign '\'' (by rw [h]; rfl)).2.1

/-- What starts with a digit is a number. -/
theorem Grammar.of_digit {c : Char} {rest : List Char} (h : Grammar (c :: rest))
    (hc : c.isDigit = true) :
    (∀ d ∈ c :: rest, d.isDigit = true) ∨
      ∃ whole fraction, c :: rest = whole ++ '.' :: fraction ∧
        (∀ d ∈ whole, d.isDigit = true) ∧ fraction ≠ [] ∧ ∀ d ∈ fraction, d.isDigit = true := by
  rcases h.sorts with ⟨rfl, -⟩ | ⟨rfl, -⟩ | ⟨-, h⟩ | ⟨h, -⟩ | ⟨sign, h⟩
  · exact absurd hc (by decide)
  · exact absurd hc (by decide)
  · exact h
  · simp [isWordStart_of_isDigit hc] at h
  · have hdigit := (spelling_head sign c (by rw [h]; rfl)).2.2.1
    simp [hdigit] at hc

/-- What starts as a word does is a word or the farewell. -/
theorem Grammar.of_wordStart {c : Char} {rest : List Char} (h : Grammar (c :: rest))
    (hc : isWordStart c = true) :
    c :: rest = Lexeme.farewell ∨ ∀ d ∈ c :: rest, isWordPart d = true := by
  rcases h.sorts with ⟨rfl, -⟩ | ⟨rfl, -⟩ | ⟨h, -⟩ | ⟨-, h⟩ | ⟨sign, h⟩
  · exact absurd hc (by decide)
  · exact absurd hc (by decide)
  · simp [isWordStart_of_isDigit h] at hc
  · exact h
  · have hstart := (spelling_head sign c (by rw [h]; rfl)).2.2.2
    simp [hstart] at hc

/-- What starts in none of these ways is a mark. -/
theorem Grammar.of_other {c : Char} {rest : List Char} (h : Grammar (c :: rest))
    (hquote : c ≠ '"') (hapostrophe : c ≠ '\'') (hdigit : c.isDigit = false)
    (hstart : isWordStart c = false) : ∃ sign : Punctuation, sign.spelling.toList = c :: rest := by
  rcases h.sorts with ⟨h, -⟩ | ⟨h, -⟩ | ⟨h, -⟩ | ⟨h, -⟩ | h
  · exact absurd h hquote
  · exact absurd h hapostrophe
  · simp [hdigit] at h
  · simp [hstart] at h
  · exact h

/-- No lexeme of the language is empty. -/
theorem Grammar.ne_nil {text : List Char} (h : Grammar text) : text ≠ [] := by
  rintro rfl
  generalize htext : [] = text at h
  cases h with
  | integer hne => exact absurd htext.symm hne
  | real hne => simp at htext
  | farewell | word | string | character => contradiction
  | operator hsign =>
      obtain ⟨sign, rfl⟩ := mem_operators_iff.mp hsign
      have := sign.length_spelling
      simp [← htext] at this

-- ── The longest lexeme, sort by sort ────────────────────────────────────────────────

theorem length_le_of_quote {content rest w : List Char} (hw : Grammar w)
    (hpre : w <+: '"' :: (content ++ '"' :: rest)) : w.length ≤ content.length + 2 := by
  obtain ⟨c, w, rfl⟩ := List.exists_cons_of_ne_nil hw.ne_nil
  obtain ⟨rfl, hbehind⟩ := List.cons_prefix_cons.mp hpre
  obtain ⟨content', rfl, hcontent'⟩ := hw.of_quote
  have hstop : EndsRun (· != '"') ('"' :: rest) := endsRun_cons rest (by decide)
  have hshort : content'.length ≤ content.length := by
    refine length_le_of_endsRun hstop ((List.prefix_append content' ['"']).trans hbehind) ?_
    intro c hc
    exact bne_iff_ne.mpr fun h => hcontent' (h ▸ hc)
  simpa using hshort

theorem length_of_apostrophe {rest w : List Char} (hw : Grammar w) (hpre : w <+: '\'' :: rest) :
    w.length = 3 := by
  obtain ⟨c, w, rfl⟩ := List.exists_cons_of_ne_nil hw.ne_nil
  obtain ⟨rfl, -⟩ := List.cons_prefix_cons.mp hpre
  obtain ⟨c, rfl⟩ := hw.of_apostrophe
  rfl

/-- No number goes on behind digits that no digit and no fraction follow. -/
theorem length_le_of_integer {digits rest w : List Char} (hne : digits ≠ [])
    (hdigits : ∀ c ∈ digits, c.isDigit = true) (hrest : EndsRun Char.isDigit rest)
    (hpoint : ∀ tail, rest = '.' :: tail → EndsRun Char.isDigit tail)
    (hw : Grammar w) (hpre : w <+: digits ++ rest) : w.length ≤ digits.length := by
  obtain ⟨c, digits, rfl⟩ := List.exists_cons_of_ne_nil hne
  obtain ⟨d, w, rfl⟩ := List.exists_cons_of_ne_nil hw.ne_nil
  obtain ⟨rfl, -⟩ := List.cons_prefix_cons.mp hpre
  rcases hw.of_digit (hdigits d List.mem_cons_self) with hw' | ⟨whole, fraction, heq, hwhole, hne',
    hfraction⟩
  · exact length_le_of_endsRun hrest hpre hw'
  · -- a fraction would have to be the one that does not follow
    rw [heq] at hpre
    obtain ⟨tail, htail⟩ := hpre
    rw [List.append_assoc] at htail
    obtain ⟨-, hfollow⟩ :=
      run_unique hwhole (endsRun_cons _ (by decide)) hdigits hrest htail
    obtain ⟨e, fraction, rfl⟩ := List.exists_cons_of_ne_nil hne'
    have hstop := hpoint _ hfollow.symm e rfl
    rw [hfraction e List.mem_cons_self] at hstop
    contradiction

/-- No number goes on behind a fraction that no digit follows. -/
theorem length_le_of_real {whole fraction rest w : List Char} (hne : whole ≠ [])
    (hwhole : ∀ c ∈ whole, c.isDigit = true) (hrest : EndsRun Char.isDigit rest)
    (hw : Grammar w) (hpre : w <+: whole ++ '.' :: fraction ++ rest) :
    w.length ≤ (whole ++ '.' :: fraction).length := by
  obtain ⟨c, whole, rfl⟩ := List.exists_cons_of_ne_nil hne
  obtain ⟨d, w, rfl⟩ := List.exists_cons_of_ne_nil hw.ne_nil
  rw [List.append_assoc] at hpre
  obtain ⟨rfl, -⟩ := List.cons_prefix_cons.mp hpre
  rcases hw.of_digit (hwhole d List.mem_cons_self) with hw' | ⟨whole', fraction', heq, hwhole', -,
    hfraction'⟩
  · have hle := length_le_of_endsRun (endsRun_cons _ (by decide)) hpre hw'
    rw [List.length_append]
    omega
  · rw [heq] at hpre ⊢
    obtain ⟨tail, htail⟩ := hpre
    rw [List.append_assoc] at htail
    obtain ⟨rfl, hfollow⟩ :=
      run_unique hwhole' (endsRun_cons _ (by decide)) hwhole (endsRun_cons _ (by decide)) htail
    have hle := length_le_of_endsRun hrest ⟨tail, (List.cons.inj hfollow).2⟩ hfraction'
    simpa using hle

theorem length_le_of_farewell {rest w : List Char} (hw : Grammar w)
    (hpre : w <+: farewell ++ rest) : w.length ≤ farewell.length := by
  obtain ⟨c, w, rfl⟩ := List.exists_cons_of_ne_nil hw.ne_nil
  obtain ⟨rfl, -⟩ := List.cons_prefix_cons.mp hpre
  rcases hw.of_wordStart (by decide) with hw' | hw'
  · rw [hw']
  · -- a word ends at the colon
    have hword : 'a' :: w <+: "adios".toList ++ (":(".toList ++ rest) := hpre
    have hle := length_le_of_endsRun (endsRun_cons _ (by decide)) hword hw'
    exact Nat.le_trans hle (by decide)

theorem length_le_of_word {c : Char} {tail rest w : List Char} (hstart : isWordStart c = true)
    (hrest : EndsRun isWordPart rest) (hfarewell : ¬ farewell <+: c :: tail ++ rest)
    (hw : Grammar w) (hpre : w <+: c :: tail ++ rest) : w.length ≤ (c :: tail).length := by
  obtain ⟨d, w, rfl⟩ := List.exists_cons_of_ne_nil hw.ne_nil
  obtain ⟨rfl, -⟩ := List.cons_prefix_cons.mp hpre
  rcases hw.of_wordStart hstart with hw' | hw'
  · exact absurd (hw' ▸ hpre) hfarewell
  · exact length_le_of_endsRun hrest hpre hw'

/-- **A cut behind a lexeme of the language takes the longest one there is.** -/
theorem Cut.length_le {lexeme rest w : List Char} (h : Cut lexeme rest) (hlexeme : Grammar lexeme)
    (hw : Grammar w) (hpre : w <+: lexeme ++ rest) : w.length ≤ lexeme.length := by
  cases h with
  | string =>
      rw [List.cons_append, List.append_assoc] at hpre
      simpa using length_le_of_quote hw hpre
  | openString | apostrophe => simpa using hpre.length_le
  | character => exact Nat.le_of_eq (length_of_apostrophe hw hpre)
  | openCharacter => exact absurd (length_of_apostrophe hlexeme (List.prefix_refl _)) (by simp)
  | farewell => exact length_le_of_farewell hw hpre
  | integer hne hdigits hrest hpoint => exact length_le_of_integer hne hdigits hrest hpoint hw hpre
  | real hne hwhole _ _ hrest => exact length_le_of_real hne hwhole hrest hw hpre
  | word hstart _ hrest hfarewell => exact length_le_of_word hstart hrest hfarewell hw hpre
  | @mark sign rest hlongest =>
      -- no lexeme but a mark starts as a mark does
      obtain ⟨c, w, rfl⟩ := List.exists_cons_of_ne_nil hw.ne_nil
      obtain ⟨d, tail, htail⟩ := List.exists_cons_of_ne_nil hlexeme.ne_nil
      have hhead : c = d := by
        rw [htail, List.cons_append] at hpre
        exact (List.cons_prefix_cons.mp hpre).1
      subst hhead
      obtain ⟨hquote, hapostrophe, hdigit, hstart⟩ := spelling_head sign c (by rw [htail]; rfl)
      obtain ⟨other, hother⟩ := hw.of_other hquote hapostrophe hdigit hstart
      rw [← hother] at hpre ⊢
      exact hlongest other hpre
  | stray hquote hapostrophe hdigit hstart hmark =>
      obtain ⟨sign, hsign⟩ := hlexeme.of_other hquote hapostrophe hdigit hstart
      exact absurd (hsign ▸ List.prefix_append _ rest) (hmark sign)

-- ── Where no lexeme of the language starts ──────────────────────────────────────────

theorem not_prefix_of_quote {content w : List Char} (hcontent : '"' ∉ content) (hw : Grammar w) :
    ¬ w <+: '"' :: content := by
  intro hpre
  obtain ⟨c, w, rfl⟩ := List.exists_cons_of_ne_nil hw.ne_nil
  obtain ⟨rfl, hbehind⟩ := List.cons_prefix_cons.mp hpre
  obtain ⟨content', rfl, -⟩ := hw.of_quote
  exact hcontent (hbehind.subset (by simp))

theorem not_prefix_of_apostrophe {c : Char} {rest w : List Char}
    (hrest : rest.head? ≠ some '\'') (hw : Grammar w) : ¬ w <+: '\'' :: c :: rest := by
  intro hpre
  obtain ⟨d, w, rfl⟩ := List.exists_cons_of_ne_nil hw.ne_nil
  obtain ⟨rfl, hbehind⟩ := List.cons_prefix_cons.mp hpre
  obtain ⟨d, rfl⟩ := hw.of_apostrophe
  obtain ⟨-, tail, htail⟩ := List.cons_prefix_cons.mp hbehind
  exact hrest (by rw [← htail]; rfl)

theorem not_prefix_of_apostrophe_nil {w : List Char} (hw : Grammar w) : ¬ w <+: ['\''] := by
  intro hpre
  have hlength := hpre.length_le
  rw [length_of_apostrophe hw hpre] at hlength
  exact absurd hlength (by decide)

theorem not_prefix_of_stray {c : Char} {rest w : List Char} (hquote : c ≠ '"')
    (hapostrophe : c ≠ '\'') (hdigit : c.isDigit = false) (hstart : isWordStart c = false)
    (hmark : ∀ sign : Punctuation, ¬ sign.spelling.toList <+: c :: rest) (hw : Grammar w) :
    ¬ w <+: c :: rest := by
  intro hpre
  obtain ⟨d, w, rfl⟩ := List.exists_cons_of_ne_nil hw.ne_nil
  obtain ⟨rfl, -⟩ := List.cons_prefix_cons.mp hpre
  obtain ⟨sign, hsign⟩ := hw.of_other hquote hapostrophe hdigit hstart
  exact hmark sign (hsign ▸ hpre)

/-- **A cut is behind a lexeme of the language, or at a place where none starts.** -/
theorem Cut.grammar_or_rejected {lexeme rest : List Char} (h : Cut lexeme rest) :
    Grammar lexeme ∨
      ∃ cause, Rejected (lexeme ++ rest) lexeme cause ∧
        Reading.ofLexeme lexeme = .error cause ∧
        ∀ w, Grammar w → ¬ w <+: lexeme ++ rest := by
  cases h with
  | string hcontent => exact Or.inl (.string hcontent)
  | character c => exact Or.inl (.character c)
  | farewell => exact Or.inl .farewell
  | integer hne hdigits => exact Or.inl (.integer hne hdigits)
  | real hne hwhole hne' hfraction => exact Or.inl (.real hne hwhole hne' hfraction)
  | word hstart htail =>
      exact Or.inl (.word ((isWordStart_iff _).mp hstart)
        fun d hd => (isWordPart_iff d).mp (htail d hd))
  | @mark sign => exact Or.inl (.operator (mem_operators_iff.mpr ⟨sign, rfl⟩))
  | @openString content hcontent =>
      rw [List.append_nil]
      exact Or.inr ⟨_, .string content, ofLexeme_of_spells (.openString hcontent),
        fun _ hw => not_prefix_of_quote hcontent hw⟩
  | @openCharacter c rest hrest =>
      exact Or.inr ⟨_, .character (c :: rest), rfl,
        fun _ hw => not_prefix_of_apostrophe hrest hw⟩
  | apostrophe =>
      exact Or.inr ⟨_, .character [], rfl, fun _ hw => not_prefix_of_apostrophe_nil hw⟩
  | @stray c rest hquote hapostrophe hdigit hstart hmark =>
      have hstray := Stray.of_not_prefix hquote hapostrophe hdigit hstart hmark
      have hnot : ∀ w, Grammar w → ¬ w <+: c :: rest := fun _ hw =>
        not_prefix_of_stray hquote hapostrophe hdigit hstart hmark hw
      cases hletter : Unicode.isAlphabetic17 c with
      | true =>
          exact Or.inr ⟨_, .letter rest hquote hapostrophe hletter,
            ofLexeme_of_spells (.letter hstray hletter), hnot⟩
      | false =>
          exact Or.inr ⟨_, .other rest hquote hapostrophe hletter,
            ofLexeme_of_spells (.stray hstray hletter), hnot⟩

end KindLex.Lexeme
