import KindLex.Proofs.Lexeme.Grammar
import KindLex.Trivia

/-!
# The right context of a lexeme

A lexeme is cut off a text with something behind it, and where it ends depends on that.  This file
says how much of the right context matters: a lexeme looks at two characters behind it at most, a
blank stops it, and only a quote or an apostrophe that nothing closes goes on with whatever comes.

* **`Cut.unique`**: a text has one cut.
* **`Cut.rest_eq_nil`**: what is not closed has the rest of the text in it.
* **`Cut.of_longer`**: a lexeme ends where it did if text behind it is taken away.
* **`Cut.append`**: it ends where it did if text is put behind its right context, out of its reach.
-/

namespace KindLex.Lexeme

/-- Text behind a right context is out of the reach of the lexeme: the context has two characters,
    or the text starts with a blank. -/
def Apart (rest more : List Char) : Prop :=
  2 ≤ rest.length ∨ ∃ c ∈ more.head?, Trivia.isBlank c = true

/-- The lexemes that end only where the text does: an apostrophe alone, and a quote that no other
    one closes. -/
inductive Unclosed : (lexeme : List Char) → Prop where
  | apostrophe : Unclosed ['\'']
  | string {content} (hcontent : '"' ∉ content) : Unclosed ('"' :: content)

-- ── A text has one cut ──────────────────────────────────────────────────────────────

/-- There is one way to reject a text. -/
theorem Rejected.unique {text lexeme lexeme' : List Char} {cause cause' : LexicalError}
    (h : Rejected text lexeme cause) (h' : Rejected text lexeme' cause') : lexeme = lexeme' := by
  cases h with
  | string =>
      cases h' with
      | string => rfl
      | letter _ hquote => exact absurd rfl hquote
      | other _ hquote => exact absurd rfl hquote
  | character =>
      cases h' with
      | character => rfl
      | letter _ _ hapostrophe => exact absurd rfl hapostrophe
      | other _ _ hapostrophe => exact absurd rfl hapostrophe
  | letter _ hquote hapostrophe | other _ hquote hapostrophe =>
      cases h' with
      | string => exact absurd rfl hquote
      | character => exact absurd rfl hapostrophe
      | letter => rfl
      | other => rfl

/-- **A text has one cut**: two cuts of it are both the longest lexeme, or what is rejected. -/
theorem Cut.unique {lexeme rest lexeme' rest' : List Char} (h : Cut lexeme rest)
    (h' : Cut lexeme' rest') (htext : lexeme ++ rest = lexeme' ++ rest') :
    lexeme = lexeme' ∧ rest = rest' := by
  have hpre : lexeme <+: lexeme' ++ rest' := htext ▸ List.prefix_append lexeme rest
  have hpre' : lexeme' <+: lexeme ++ rest := htext ▸ List.prefix_append lexeme' rest'
  have hlength : lexeme.length = lexeme'.length := by
    rcases h.grammar_or_rejected with hlexeme | ⟨cause, hrejected, -, hnone⟩
    · rcases h'.grammar_or_rejected with hlexeme' | ⟨cause', -, -, hnone'⟩
      · exact Nat.le_antisymm (h'.length_le hlexeme' hlexeme hpre)
          (h.length_le hlexeme hlexeme' hpre')
      · exact absurd hpre (hnone' lexeme hlexeme)
    · rcases h'.grammar_or_rejected with hlexeme' | ⟨cause', hrejected', -, -⟩
      · exact absurd hpre' (hnone lexeme' hlexeme')
      · rw [htext] at hrejected
        rw [hrejected.unique hrejected']
  exact List.append_inj htext hlength

-- ── What is not closed ──────────────────────────────────────────────────────────────

/-- What is not closed is no lexeme of the language. -/
theorem Unclosed.not_grammar {lexeme : List Char} (h : Unclosed lexeme) : ¬ Grammar lexeme := by
  intro hlexeme
  cases h with
  | apostrophe =>
      obtain ⟨c, hc⟩ := hlexeme.of_apostrophe
      contradiction
  | string hcontent =>
      obtain ⟨content, rfl, -⟩ := hlexeme.of_quote
      exact hcontent (List.mem_append_right content List.mem_cons_self)

/-- **What is not closed has the rest of the text in it.** -/
theorem Cut.rest_eq_nil {lexeme rest : List Char} (h : Cut lexeme rest) (hopen : Unclosed lexeme) :
    rest = [] := by
  rcases h.grammar_or_rejected with hlexeme | ⟨cause, hrejected, -, -⟩
  · exact absurd hlexeme hopen.not_grammar
  · cases hopen with
    | apostrophe =>
        have hsame := hrejected.unique (.character rest)
        have htake : rest.take 1 = [] := (List.cons.inj hsame).2.symm
        simpa using htake
    | @string content =>
        have hsame := hrejected.unique (.string (content ++ rest))
        have happend : content ++ [] = content ++ rest := by
          rw [List.append_nil]
          exact (List.cons.inj hsame).2
        exact (List.append_cancel_left happend).symm

/-- What is read as a string without its end, or as an apostrophe alone, is not closed, and nothing
    else. -/
theorem Spells.unclosed_iff {lexeme : List Char} {reading : Reading} (h : Spells lexeme reading) :
    Unclosed lexeme ↔ reading = .error .unterminatedString ∨
      lexeme = ['\''] ∧ ∃ text, reading = .error (.malformedCharacter text) := by
  constructor
  · intro hopen
    cases hopen with
    | apostrophe => exact Or.inr ⟨rfl, _, h.unique (@Spells.openCharacter [] (Nat.zero_le 1))⟩
    | string hcontent => exact Or.inl (h.unique (.openString hcontent))
  · rintro (hreading | ⟨rfl, -⟩)
    · cases h with
      | openString hcontent => exact .string hcontent
      | _ => cases hreading
    · exact .apostrophe

-- ── Out of reach ────────────────────────────────────────────────────────────────────

theorem apart_of_blank {c : Char} (rest more : List Char) (hc : Trivia.isBlank c = true) :
    Apart rest (c :: more) :=
  Or.inr ⟨c, rfl, hc⟩

/-- What is true of none of the four blanks is not true of a blank. -/
theorem eq_false_of_isBlank {p : Char → Bool} (hblanks : [' ', '\t', '\r', '\n'].any p = false)
    {c : Char} (hc : Trivia.isBlank c = true) : p c = false :=
  Bool.not_eq_true _ ▸ List.any_eq_false.mp hblanks c ((Trivia.isBlank_iff c).mp hc)

theorem EndsRun.append {p : Char → Bool} {rest more : List Char} (h : EndsRun p rest)
    (hmore : rest = [] → EndsRun p more) : EndsRun p (rest ++ more) := by
  cases rest with
  | nil => exact hmore rfl
  | cons d rest =>
      intro c hc
      exact h c hc

/-- Behind fewer than two characters, text that is out of reach starts with a blank, which ends
    every run without blanks. -/
theorem Apart.endsRun {p : Char → Bool} {rest more : List Char} (h : Apart rest more)
    (hshort : rest.length < 2) (hblanks : [' ', '\t', '\r', '\n'].any p = false) :
    EndsRun p more := by
  rcases h with htwo | ⟨c, hc, hcblank⟩
  · omega
  · intro d hd
    obtain rfl : c = d := Option.some.inj (hc.symm.trans hd)
    exact eq_false_of_isBlank hblanks hcblank

/-- A run that a right context stops is stopped also when more text follows. -/
theorem EndsRun.append_of_apart {p : Char → Bool} {rest more : List Char} (h : EndsRun p rest)
    (hapart : Apart rest more) (hblanks : [' ', '\t', '\r', '\n'].any p = false) :
    EndsRun p (rest ++ more) := by
  refine h.append fun hnil => hapart.endsRun ?_ hblanks
  rw [hnil]
  decide

/-- Digits that no fraction follows are not followed by one when more text is there. -/
theorem no_fraction_of_apart {rest more tail : List Char} (hapart : Apart rest more)
    (hpoint : ∀ tail, rest = '.' :: tail → EndsRun Char.isDigit tail)
    (htail : rest ++ more = '.' :: tail) : EndsRun Char.isDigit tail := by
  cases rest with
  | nil =>
      -- a point is no blank, so it is not what follows
      have hstop : EndsRun (· == '.') more := hapart.endsRun (by decide) (by decide)
      exact absurd (hstop '.' (congrArg List.head? htail)) (by decide)
  | cons c rest =>
      obtain ⟨rfl, rfl⟩ := List.cons.inj htail
      refine (hpoint rest rfl).append fun hnil => ?_
      refine hapart.endsRun ?_ (by decide)
      rw [hnil]
      decide

/-- What starts at a lexeme, has no blank in it and goes at most two characters beyond the lexeme
    does not get to text that is out of reach. -/
theorem prefix_of_apart {w lexeme rest more : List Char} (hapart : Apart rest more)
    (hlength : w.length ≤ lexeme.length + 2) (hblank : w.any Trivia.isBlank = false)
    (hpre : w <+: lexeme ++ (rest ++ more)) : w <+: lexeme ++ rest := by
  rw [← List.append_assoc] at hpre
  have hbefore : w.length ≤ (lexeme ++ rest).length → w <+: lexeme ++ rest :=
    List.prefix_of_prefix_length_le hpre (List.prefix_append _ _)
  rcases hapart with htwo | ⟨c, hc, hcblank⟩
  · refine hbefore ?_
    rw [List.length_append]
    omega
  · obtain ⟨more, rfl⟩ := List.head?_eq_some_iff.mp hc
    refine hbefore (Nat.not_lt.mp fun hlong => ?_)
    -- otherwise the blank would be in `w`
    have hreach : lexeme ++ rest ++ [c] <+: w := by
      refine List.prefix_of_prefix_length_le ?_ hpre ?_
      · exact (List.prefix_append_right_inj _).mpr ⟨more, rfl⟩
      · rw [List.length_append]
        exact hlong
    have hmem : c ∈ w := hreach.subset (List.mem_append_right _ List.mem_cons_self)
    exact absurd hcblank (List.any_eq_false.mp hblank c hmem)

/-- No mark gets to text that is out of reach. -/
theorem spelling_of_apart {sign : Punctuation} {lexeme rest more : List Char}
    (hapart : Apart rest more) (hpre : sign.spelling.toList <+: lexeme ++ (rest ++ more)) :
    sign.spelling.toList <+: lexeme ++ rest := by
  have hblank : ∀ sign ∈ Punctuation.all, sign.spelling.toList.any Trivia.isBlank = false := by
    decide +kernel
  refine prefix_of_apart hapart ?_ (hblank sign (Punctuation.mem_all sign)) hpre
  rcases sign.length_spelling with hlength | hlength <;> omega

/-- A word that begins no farewell begins none either when more text follows. -/
theorem farewell_of_apart {word rest more : List Char} (hapart : Apart rest more)
    (hword : ∀ d ∈ word, isWordPart d = true) (hends : EndsRun isWordPart (rest ++ more))
    (hpre : farewell <+: word ++ (rest ++ more)) : farewell <+: word ++ rest := by
  -- the word would be the one in front of the colon, and two characters of the farewell follow it
  obtain ⟨tail, htail⟩ := hpre
  have hparts : "adios".toList ++ (":(".toList ++ tail) = word ++ (rest ++ more) := htail
  have hname : ∀ c ∈ "adios".toList, isWordPart c = true := List.all_eq_true.mp (by decide)
  have hcolon : EndsRun isWordPart (":(".toList ++ tail) := endsRun_cons _ (by decide)
  obtain ⟨rfl, -⟩ := run_unique hname hcolon hword hends hparts
  exact prefix_of_apart hapart (by decide) (by decide) ⟨tail, htail⟩

-- ── Other right contexts ────────────────────────────────────────────────────────────

theorem EndsRun.of_append {p : Char → Bool} {rest more : List Char} (h : EndsRun p (rest ++ more)) :
    EndsRun p rest := by
  intro c hc
  obtain ⟨tail, rfl⟩ := List.head?_eq_some_iff.mp hc
  exact h c rfl

/-- **A lexeme ends where it did if text at the end of its right context is taken away.** -/
theorem Cut.of_longer {lexeme rest more : List Char} (h : Cut lexeme (rest ++ more)) :
    Cut lexeme rest := by
  generalize hbehind : rest ++ more = behind at h
  cases h with
  | string hcontent => exact .string hcontent
  | openString hcontent =>
      obtain ⟨rfl, -⟩ := List.append_eq_nil_iff.mp hbehind
      exact .openString hcontent
  | character c => exact .character c rest
  | openCharacter hrest =>
      refine .openCharacter fun hhead => hrest ?_
      obtain ⟨tail, rfl⟩ := List.head?_eq_some_iff.mp hhead
      rw [← hbehind]
      rfl
  | apostrophe =>
      obtain ⟨rfl, -⟩ := List.append_eq_nil_iff.mp hbehind
      exact .apostrophe
  | farewell => exact .farewell rest
  | integer hne hdigits hrest hpoint =>
      subst hbehind
      refine .integer hne hdigits hrest.of_append fun tail htail => ?_
      subst htail
      exact (hpoint (tail ++ more) rfl).of_append
  | real hne hwhole hne' hfraction hrest =>
      subst hbehind
      exact .real hne hwhole hne' hfraction hrest.of_append
  | word hstart htail hrest hfarewell =>
      subst hbehind
      refine .word hstart htail hrest.of_append fun hpre => hfarewell ?_
      rw [← List.append_assoc]
      exact hpre.trans (List.prefix_append _ more)
  | mark hlongest =>
      subst hbehind
      refine .mark fun other hother => hlongest other ?_
      rw [← List.append_assoc]
      exact hother.trans (List.prefix_append _ more)
  | @stray c behind hquote hapostrophe hdigit hstart hmark =>
      subst hbehind
      refine .stray hquote hapostrophe hdigit hstart fun sign hsign => hmark sign ?_
      exact hsign.trans (List.prefix_append (c :: rest) more)

/-- **A lexeme ends where it did if text is put behind its right context**, out of its reach. -/
theorem Cut.append {lexeme rest more : List Char} (h : Cut lexeme rest) (hapart : Apart rest more)
    (hclosed : rest = [] → ¬ Unclosed lexeme) : Cut lexeme (rest ++ more) := by
  cases h with
  | string hcontent => exact .string hcontent
  | openString hcontent => exact absurd (.string hcontent) (hclosed rfl)
  | character c => exact .character c _
  | openCharacter hrest =>
      have hstop : EndsRun (· == '\'') rest := by
        intro c hc
        exact beq_false_of_ne fun h => hrest (h ▸ hc)
      have hends := hstop.append_of_apart hapart (by decide)
      exact .openCharacter fun hhead => absurd (hends '\'' hhead) (by decide)
  | apostrophe => exact absurd .apostrophe (hclosed rfl)
  | farewell => exact .farewell _
  | integer hne hdigits hrest hpoint =>
      refine .integer hne hdigits (hrest.append_of_apart hapart (by decide)) ?_
      intro tail htail
      exact no_fraction_of_apart hapart hpoint htail
  | real hne hwhole hne' hfraction hrest =>
      exact .real hne hwhole hne' hfraction (hrest.append_of_apart hapart (by decide))
  | @word c tail rest hstart htail hrest hfarewell =>
      have hends := hrest.append_of_apart hapart (by decide)
      have hword : ∀ d ∈ c :: tail, isWordPart d = true := by
        intro d hd
        rcases List.mem_cons.mp hd with rfl | hd
        · simp [isWordPart, hstart]
        · exact htail d hd
      exact .word hstart htail hends fun hpre =>
        hfarewell (farewell_of_apart hapart hword hends hpre)
  | @mark sign rest hlongest =>
      exact .mark fun other hother => hlongest other (spelling_of_apart hapart hother)
  | @stray c rest hquote hapostrophe hdigit hstart hmark =>
      exact .stray hquote hapostrophe hdigit hstart fun sign hsign =>
        hmark sign (@spelling_of_apart sign [c] rest more hapart hsign)

end KindLex.Lexeme
