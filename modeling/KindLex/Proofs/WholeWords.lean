import KindLex.Proofs.Classification
import KindLex.Proofs.Lexeme.Context
import KindLex.Proofs.LineLaw
import KindLex.Proofs.LongestMatch

/-!
# Where words end

Two editions of Unicode tell what a letter is: a word may begin with a letter of edition 17.0, and
goes on over the letters of edition 16.0.  They differ in the letters that the later edition adds.
Such a letter continues no word, so a run of letters, numbers and `_` is split in front of it; and
where a word begins with one, the word is that letter.  Any other run makes one token.

* **`isNewLetter_iff`**: which letters those are.
* **`tokenize_wordLaw`**: where the words of a source end, and which runs are words.
* **`word_split_before_newLetter`**: a run that is split.
-/

namespace KindLex

open Lexeme Scanner

/-- The letters of edition 17.0 that edition 16.0 does not have. -/
def isNewLetter (c : Char) : Bool :=
  Unicode.isAlphabetic17 c && !Unicode.isAlphabetic16 c

/-- The characters that a word begins with: the letters of either edition, and `_`. -/
def beginsWord (c : Char) : Bool :=
  c == '_' || Unicode.isAlphabetic17 c

/-- The characters that stand in a word: those that it begins with, and the numbers. -/
def continuesWord (c : Char) : Bool :=
  beginsWord c || Unicode.isNumber16 c

/-- Whether a reading is that of a word: a reserved word, a truth value, a name, or a word that is
    no name. -/
def Reading.isWord : Reading → Bool
  | .keyword word                 => word != .adiosTriste
  | .boolean _                    => true
  | .identifier                   => true
  | .upperIdentifier              => true
  | .error (.invalidIdentifier _) => true
  | _                             => false

/-- A token that is a word. -/
def Token.IsWord (t : Token) : Prop :=
  (∃ word, word ≠ .adiosTriste ∧ t.kind = .keyword word) ∨ t.kind = .boolean ∨
    t.kind = .identifier ∨ t.kind = .upperIdentifier ∨
    ∃ text, t.literal = some (.error (.invalidIdentifier text))

/-- The first word of a run: the letter that begins it, if that is a new one, and otherwise what
    stands in front of the first new letter. -/
def firstWord : (run : List Char) → List Char
  | []        => []
  | c :: tail => if isNewLetter c then [c] else (c :: tail).takeWhile fun d => !isNewLetter d

/-- Where the words of a source end. -/
structure WordLaw (source : String) : Prop where
  /-- Behind a word nothing continues it but a new letter, unless the word is a new letter. -/
  ends : ∀ k t, (tokenize source)[k]? = some t → t.IsWord →
    (∃ c, isNewLetter c = true ∧ t.lexeme.toList = [c]) ∨
      ∀ c ∈ (afterTokens source (k + 1)).rest.head?, continuesWord c = true → isNewLetter c = true
  /-- In a source without new letters nothing continues a word. -/
  whole : (∀ c ∈ source.toList, isNewLetter c = false) →
    ∀ k t, (tokenize source)[k]? = some t → t.IsWord →
      ∀ c ∈ (afterTokens source (k + 1)).rest.head?, continuesWord c = false
  /-- A run begins with a token that is its first word, and that is all of the run if the run has
      one character or no new letter, and only then. -/
  run : ∀ s, Reachable source s → ∀ c tail rest, s.rest = c :: tail ++ rest →
    beginsWord c = true → (∀ d ∈ tail, continuesWord d = true) → EndsRun continuesWord rest →
    ¬ Lexeme.farewell <+: s.rest →
      ∃ t, s.turn.1 = some t ∧ t.IsWord ∧ t.lexeme.toList = firstWord (c :: tail) ∧
        (t.lexeme.toList = c :: tail ↔ tail = [] ∨ ∀ d ∈ c :: tail, isNewLetter d = false)
  /-- The farewell is one token, with the run that begins it. -/
  farewell : ∀ s, Reachable source s → Lexeme.farewell <+: s.rest →
    ∃ t, s.turn.1 = some t ∧ t.kind = .keyword .adiosTriste ∧ t.lexeme = "adios:("

-- ── The two editions ────────────────────────────────────────────────────────────────

namespace Unicode

/-- Whether no range of one table meets a range of another. -/
def Ranges.areApart (table other : Ranges) : Bool :=
  table.pairs.all fun r => other.pairs.all fun s => r.2 < s.1 || s.2 < r.1

theorem Ranges.not_both {table other : Ranges} (h : areApart table other = true) {n : Nat}
    (hmem : n ∈ table) : n ∉ other := by
  rintro ⟨s, hs, hlo', hhi'⟩
  obtain ⟨r, hr, hlo, hhi⟩ := hmem
  have hapart := List.all_eq_true.mp (List.all_eq_true.mp h r hr) s hs
  simp only [Bool.or_eq_true, decide_eq_true_eq] at hapart
  omega

/-- No letter that the later edition adds is a letter of the earlier one. -/
theorem alphabetic16_areApart : Ranges.areApart alphabetic16 alphabeticSince17 = true := by
  decide +kernel

/-- No letter that the later edition adds is a number of the earlier one. -/
theorem number16_areApart : Ranges.areApart number16 alphabeticSince17 = true := by
  decide +kernel

end Unicode

/-- **The editions differ** in the letters of one table, and none of them is in the other one. -/
theorem isNewLetter_iff (c : Char) :
    isNewLetter c = true ↔ c.toNat ∈ Unicode.alphabeticSince17 := by
  rw [isNewLetter, Unicode.isAlphabetic17, Bool.and_eq_true, Bool.or_eq_true, Bool.not_eq_true',
    Unicode.Ranges.holds_iff]
  constructor
  · rintro ⟨hold | hnew, hnot⟩
    · rw [hold] at hnot
      contradiction
    · exact hnew
  · intro hnew
    refine ⟨Or.inr hnew, Bool.eq_false_iff.mpr fun hold => ?_⟩
    exact Unicode.Ranges.not_both Unicode.alphabetic16_areApart
      ((Unicode.Ranges.holds_iff _ _).mp hold) hnew

/-- No new letter was a number before. -/
theorem isNumber16_of_isNewLetter {c : Char} (h : isNewLetter c = true) :
    Unicode.isNumber16 c = false := by
  refine Bool.eq_false_iff.mpr fun hnumber => ?_
  exact Unicode.Ranges.not_both Unicode.number16_areApart
    ((Unicode.Ranges.holds_iff _ _).mp hnumber) ((isNewLetter_iff c).mp h)

/-- A new letter is far above the characters that the marks are made of. -/
theorem toNat_of_isNewLetter {c : Char} (h : isNewLetter c = true) : 0x88F ≤ c.toNat := by
  have key : ∀ r ∈ Unicode.alphabeticSince17.pairs, 0x88F ≤ r.1 := by
    decide
  obtain ⟨r, hr, hlo, -⟩ := (isNewLetter_iff c).mp h
  exact Nat.le_trans (key r hr) hlo

/-- A new letter begins no word that has further characters. -/
theorem isWordStart_of_isNewLetter {c : Char} (h : isNewLetter c = true) :
    isWordStart c = false := by
  have hfar := toNat_of_isNewLetter h
  have hunderscore : c ≠ '_' := by
    rintro rfl
    exact absurd hfar (by decide)
  have hletter : Unicode.isAlphabetic16 c = false := by
    simp only [isNewLetter, Bool.and_eq_true, Bool.not_eq_true'] at h
    exact h.2
  simp [isWordStart, hunderscore, hletter]

/-- Of the characters that begin a word, the scanner goes on from those that are no new letters. -/
theorem isWordStart_eq (c : Char) : isWordStart c = (beginsWord c && !isNewLetter c) := by
  cases hnew : isNewLetter c with
  | true => rw [isWordStart_of_isNewLetter hnew, Bool.not_true, Bool.and_false]
  | false =>
      have hsame : Unicode.isAlphabetic17 c = Unicode.isAlphabetic16 c := by
        cases hold : Unicode.isAlphabetic16 c with
        | true => exact Unicode.isAlphabetic17_of_isAlphabetic16 hold
        | false => simpa [isNewLetter, hold] using hnew
      rw [isWordStart, beginsWord, hsame, Bool.not_false, Bool.and_true]

/-- Of the characters that continue a word, it goes on over those that are no new letters. -/
theorem isWordPart_eq (c : Char) : isWordPart c = (continuesWord c && !isNewLetter c) := by
  rw [isWordPart, continuesWord, isWordStart_eq]
  cases hnew : isNewLetter c with
  | true => simp [isNumber16_of_isNewLetter hnew]
  | false => simp

-- ── Which lexemes are words ─────────────────────────────────────────────────────────

/-- A token that is made of a reading is a word if the reading is one. -/
theorem isWord_iff {t : Token} {reading : Reading} (hkind : t.kind = reading.kind)
    (hliteral : t.literal = reading.literal) : t.IsWord ↔ reading.isWord = true := by
  rw [Token.IsWord, hkind, hliteral]
  cases reading with
  | error cause => cases cause <;> simp [Reading.isWord, Reading.kind, Reading.literal]
  | _ => simp [Reading.isWord, Reading.kind, Reading.literal]

/-- What is read as a word is one, reserved or not, a name or not. -/
theorem isWord_ofWord (word : List Char) : (Reading.ofWord word).isWord = true := by
  rw [Reading.ofWord]
  split
  · rename_i reserved hfind
    obtain ⟨hall, -⟩ := ReservedWord.ofText?_eq_some_iff.mp hfind
    exact bne_iff_ne.mpr (ReservedWord.keyword_mem_all.mp hall)
  · rfl
  · split
    · rfl
    · split <;> rfl

/-- **A word is cut off where nothing continues it**, unless it is a new letter. -/
theorem Lexeme.Cut.word_ends {lexeme rest : List Char} (h : Cut lexeme rest)
    (hword : (Reading.ofLexeme lexeme).isWord = true) :
    (∃ c, isNewLetter c = true ∧ lexeme = [c]) ∨ EndsRun isWordPart rest := by
  cases h with
  | word _ _ hrest => exact Or.inr hrest
  | @stray c rest hquote hapostrophe hdigit hstart hmark =>
      have hstray := Stray.of_not_prefix hquote hapostrophe hdigit hstart hmark
      cases hletter : Unicode.isAlphabetic17 c with
      | false =>
          rw [ofLexeme_of_spells (.stray hstray hletter)] at hword
          contradiction
      | true =>
          have hold : Unicode.isAlphabetic16 c = false := by
            rw [isWordStart, Bool.or_eq_false_iff] at hstart
            exact hstart.2
          exact Or.inl ⟨c, by rw [isNewLetter, hletter, hold]; rfl, rfl⟩
  | string hcontent => rw [ofLexeme_of_spells (.string hcontent)] at hword; contradiction
  | openString hcontent => rw [ofLexeme_of_spells (.openString hcontent)] at hword; contradiction
  | character c => rw [ofLexeme_of_spells (.character c)] at hword; contradiction
  | farewell => exact absurd hword (by decide +kernel)
  | integer hne hdigits =>
      rw [ofLexeme_integer hne hdigits] at hword
      split at hword <;> contradiction
  | real hne hwhole => rw [ofLexeme_real hne hwhole] at hword; contradiction
  | @mark sign => rw [ofLexeme_of_spells (.mark sign)] at hword; contradiction
  | @openCharacter c =>
      rw [ofLexeme_of_spells (@Spells.openCharacter [c] (Nat.le_refl 1))] at hword
      contradiction
  | apostrophe =>
      rw [ofLexeme_of_spells (@Spells.openCharacter [] (Nat.zero_le 1))] at hword
      contradiction

-- ── How a run is cut ────────────────────────────────────────────────────────────────

/-- A run is gone over up to its first new letter. -/
theorem takeWhile_isWordPart {run rest : List Char} (hrun : ∀ d ∈ run, continuesWord d = true)
    (hrest : EndsRun continuesWord rest) :
    (run ++ rest).takeWhile isWordPart = run.takeWhile fun d => !isNewLetter d := by
  induction run with
  | nil =>
      cases rest with
      | nil => rfl
      | cons c rest =>
          rw [List.nil_append, List.takeWhile_cons, isWordPart_eq, hrest c rfl]
          rfl
  | cons d run ih =>
      have htail := ih fun e he => hrun e (List.mem_cons_of_mem _ he)
      rw [List.cons_append, List.takeWhile_cons, List.takeWhile_cons, htail, isWordPart_eq,
        hrun d List.mem_cons_self, Bool.true_and]

/-- Where the scanner begins a word it goes over all that continues the word. -/
theorem take_extent_word {c : Char} {rest : List Char} (hc : isWordStart c = true)
    (hfarewell : ¬ Lexeme.farewell <+: c :: rest) :
    (c :: rest).take (extent (c :: rest)) = (c :: rest).takeWhile isWordPart := by
  have hcut := cut_extent (List.cons_ne_nil c rest)
  rw [← take_run]
  refine (hcut.unique (cut_word hc hfarewell) ?_).1
  rw [List.take_append_drop, List.take_append_drop]

/-- No mark starts with a new letter. -/
theorem not_prefix_of_isNewLetter {c : Char} (hc : isNewLetter c = true) (sign : Punctuation)
    (rest : List Char) : ¬ sign.spelling.toList <+: c :: rest := by
  have key : ∀ sign ∈ Punctuation.all, sign.spelling.toList.all (·.toNat < 0x88F) = true := by
    decide +kernel
  intro hpre
  cases hspelling : sign.spelling.toList with
  | nil =>
      have hlength := sign.length_spelling
      rw [hspelling] at hlength
      exact absurd hlength (by decide)
  | cons d spelling =>
      have hnear := key sign (Punctuation.mem_all sign)
      rw [hspelling] at hpre hnear
      obtain rfl : d = c := (List.cons_prefix_cons.mp hpre).1
      simp only [List.all_cons, Bool.and_eq_true, decide_eq_true_eq] at hnear
      exact absurd (toNat_of_isNewLetter hc) (Nat.not_le.mpr hnear.1)

/-- A new letter begins nothing else. -/
theorem stray_of_isNewLetter {c : Char} (hc : isNewLetter c = true) : Stray c := by
  have hfar := toNat_of_isNewLetter hc
  refine @Stray.of_not_prefix c [] ?_ ?_ ?_ (isWordStart_of_isNewLetter hc)
    fun sign => not_prefix_of_isNewLetter hc sign []
  · rintro rfl
    exact absurd hfar (by decide)
  · rintro rfl
    exact absurd hfar (by decide)
  · refine Bool.eq_false_iff.mpr fun hdigit => ?_
    have hnear : c.toNat ≤ '9'.toNat := (Char.isDigit_iff_toNat.mp hdigit).2
    exact absurd (Nat.le_trans hfar hnear) (by decide)

/-- **The lexeme at the start of a run is its first word.** -/
theorem take_extent_run {c : Char} {tail rest : List Char} (hc : beginsWord c = true)
    (htail : ∀ d ∈ tail, continuesWord d = true) (hrest : EndsRun continuesWord rest)
    (hfarewell : ¬ Lexeme.farewell <+: c :: tail ++ rest) :
    (c :: tail ++ rest).take (extent (c :: tail ++ rest)) = firstWord (c :: tail) := by
  rw [firstWord]
  cases hnew : isNewLetter c with
  | true =>
      have hcut := cut_extent (List.cons_ne_nil c (tail ++ rest))
      have hstray := stray_of_isNewLetter hnew
      have halone : Cut [c] (tail ++ rest) :=
        .stray hstray.quote hstray.apostrophe hstray.digit hstray.start
          fun sign => not_prefix_of_isNewLetter hnew sign _
      exact (hcut.unique halone (List.take_append_drop _ _)).1
  | false =>
      have hstart : isWordStart c = true := by rw [isWordStart_eq, hc, hnew]; rfl
      have hrun : ∀ d ∈ c :: tail, continuesWord d = true := by
        intro d hd
        rcases List.mem_cons.mp hd with rfl | hd
        · rw [continuesWord, hc, Bool.true_or]
        · exact htail d hd
      exact (take_extent_word hstart hfarewell).trans (takeWhile_isWordPart hrun hrest)

/-- The first word of a run is all of it if the run has one character or no new letter. -/
theorem firstWord_eq_iff {c : Char} {tail : List Char} :
    firstWord (c :: tail) = c :: tail ↔ tail = [] ∨ ∀ d ∈ c :: tail, isNewLetter d = false := by
  rw [firstWord]
  cases hnew : isNewLetter c with
  | true =>
      rw [if_pos rfl]
      constructor
      · intro hsame
        exact Or.inl (List.cons.inj hsame).2.symm
      · rintro (rfl | hnone)
        · rfl
        · rw [hnone c List.mem_cons_self] at hnew
          contradiction
  | false =>
      have hopen : tail = [] → ∀ d ∈ c :: tail, isNewLetter d = false := by
        rintro rfl d hd
        rw [List.mem_singleton.mp hd, hnew]
      rw [or_iff_right_of_imp hopen, if_neg Bool.false_ne_true, List.takeWhile_eq_self_iff]
      simp only [Bool.not_eq_true']

/-- The first word of a run is read as a word. -/
theorem isWord_firstWord {c : Char} {tail : List Char} (hc : beginsWord c = true)
    (htail : ∀ d ∈ tail, continuesWord d = true) :
    (Reading.ofLexeme (firstWord (c :: tail))).isWord = true := by
  rw [firstWord]
  cases hnew : isNewLetter c with
  | true =>
      have hletter : Unicode.isAlphabetic17 c = true := by
        rw [isNewLetter, Bool.and_eq_true] at hnew
        exact hnew.1
      rw [if_pos rfl, ofLexeme_of_spells (.letter (stray_of_isNewLetter hnew) hletter)]
      rfl
  | false =>
      have hstart : isWordStart c = true := by rw [isWordStart_eq, hc, hnew]; rfl
      rw [if_neg Bool.false_ne_true, List.takeWhile_cons_of_pos (by rw [hnew]; rfl),
        ofLexeme_word hstart]
      · exact isWord_ofWord _
      · -- the colon of the farewell continues no word
        intro hsame
        have hcolon : ':' ∈ tail.takeWhile fun d => !isNewLetter d := by
          rw [(List.cons.inj hsame).2]
          decide
        exact absurd (htail _ ((List.takeWhile_prefix _).subset hcolon)) (by decide)

-- ── Tokens ──────────────────────────────────────────────────────────────────────────

/-- A token begins where neither a blank nor a slash stands. -/
theorem ofText_of_ne {c : Char} {rest : List Char} (hblank : c ∉ [' ', '\t', '\r', '\n'])
    (hslash : c ≠ '/') : Piece.ofText (c :: rest) = .lexeme := by
  refine (begins_iff.mp ⟨List.cons_ne_nil c rest, ?_, ?_⟩).2
  · intro d hd
    obtain rfl : c = d := Option.some.inj hd
    exact hblank
  · intro hslashes
    exact hslash (List.cons_prefix_cons.mp hslashes).1.symm

theorem ofText_of_beginsWord {c : Char} {rest : List Char} (hc : beginsWord c = true) :
    Piece.ofText (c :: rest) = .lexeme := by
  refine ofText_of_ne ?_ ?_
  · intro hblank
    simp only [List.mem_cons, List.not_mem_nil, or_false] at hblank
    rcases hblank with rfl | rfl | rfl | rfl <;> exact absurd hc (by decide)
  · rintro rfl
    exact absurd hc (by decide)

/-- The word law at the end of one word. -/
theorem ends_of_getElem? {source : String} {k : Nat} {t : Token}
    (hk : (tokenize source)[k]? = some t) (hword : t.IsWord) :
    (∃ c, isNewLetter c = true ∧ t.lexeme.toList = [c]) ∨
      ∀ c ∈ (afterTokens source (k + 1)).rest.head?,
        continuesWord c = true → isNewLetter c = true := by
  have hmem := List.mem_of_getElem? hk
  obtain ⟨hspells, hkind, hliteral⟩ := spells_of_mem hmem
  rw [isWord_iff hkind hliteral] at hword
  have hne : t.kind ≠ .eof := by
    rw [hkind]
    intro heof
    rw [(kind_eq_eof_iff hspells).mp heof] at hword
    contradiction
  obtain ⟨s, -, hrest, hturn⟩ := exists_turn_of_getElem? hk hne
  obtain ⟨lexeme, hcut, -, rfl⟩ := cut_of_turn_eq_some hrest hturn
  rw [Token.toList_lexeme_ofLexeme] at hword ⊢
  refine (hcut.word_ends hword).imp_right fun hends c hc hcontinues => ?_
  have hstop := hends c hc
  rwa [isWordPart_eq, hcontinues, Bool.true_and, Bool.not_eq_false'] at hstop

/-- **Where the words of a source end**, for every source. -/
theorem tokenize_wordLaw (source : String) : WordLaw source where
  ends _ _ hk hword := ends_of_getElem? hk hword
  whole := by
    intro hnone k t hk hword c hc
    have hplaced := placed_of_reachable (reachable_afterTokens source (k + 1))
    refine Bool.eq_false_iff.mpr fun hcontinues => ?_
    rcases ends_of_getElem? hk hword with ⟨d, hd, hlexeme⟩ | hends
    · have hmem : d ∈ (afterTokens source (k + 1)).behind source :=
        (line_of_getElem? hk).1.subset (by simp [hlexeme])
      rw [hnone d (hplaced.text ▸ List.mem_append_left _ hmem)] at hd
      contradiction
    · have hnew := hends c hc hcontinues
      rw [hnone c (hplaced.text ▸ List.mem_append_right _ (List.mem_of_mem_head? hc))] at hnew
      contradiction
  run := by
    intro s _ c tail rest hsplit hc htail hrest hfarewell
    have hpiece : Piece.ofText s.rest = .lexeme := hsplit ▸ ofText_of_beginsWord hc
    have hlexeme : s.rest.take (extent s.rest) = firstWord (c :: tail) := by
      rw [hsplit] at hfarewell ⊢
      exact take_extent_run hc htail hrest hfarewell
    refine ⟨_, by rw [turn_of_lexeme hpiece], ?_, ?_, ?_⟩
    · rw [hlexeme, @isWord_iff _ (Reading.ofLexeme (firstWord (c :: tail))) rfl rfl]
      exact isWord_firstWord hc htail
    · rw [Token.toList_lexeme_ofLexeme, hlexeme]
    · rw [Token.toList_lexeme_ofLexeme, hlexeme, firstWord_eq_iff]
  farewell := by
    intro s _ hfarewell
    obtain ⟨rest, hrest⟩ := hfarewell
    have hpiece : Piece.ofText s.rest = .lexeme := by
      rw [← hrest]
      exact ofText_of_beginsWord (by decide)
    have hne : s.rest ≠ [] := by
      rw [← hrest]
      exact List.append_ne_nil_of_left_ne_nil (by decide) rest
    have hlexeme : s.rest.take (extent s.rest) = Lexeme.farewell := by
      refine ((cut_extent hne).unique (.farewell rest) ?_).1
      rw [List.take_append_drop, hrest]
    refine ⟨_, by rw [turn_of_lexeme hpiece], ?_, ?_⟩
    · rw [hlexeme]
      show (Reading.ofLexeme Lexeme.farewell).kind = .keyword .adiosTriste
      decide +kernel
    · rw [hlexeme]
      rfl

/-- **A run is split in front of a new letter**, here U+088F. -/
theorem word_split_before_newLetter :
    tokenize "a\u088f" =
        [⟨.identifier, "a", none, 1⟩,
         ⟨.error, "\u088f", some (.error (.invalidIdentifier "\u088f")), 1⟩,
         ⟨.eof, "", none, 1⟩] ∧
      Unicode.isAlphabetic17 '\u088f' = true := by
  decide +kernel

end KindLex
