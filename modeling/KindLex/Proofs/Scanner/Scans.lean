import KindLex.Proofs.Lexeme.Context
import KindLex.Proofs.LongestMatch
import KindLex.Proofs.Tiling

/-!
# Which tokens a text makes

`Yields` follows a scanner from turn to turn.  What comes from a scanner depends on the text ahead
and on the line alone, though, and here both are all there is: `Scans text line tokens` judges a
text with its real right context at every step, so that judgements about one text can be turned
into judgements about another.  Every relation between two runs is proved on it.

* **`Scans`**: the tokens that a text makes from a line on, the one at its end among them.
* **`scans_tokenize`** and **`Scans.unique`**: the tokens of a source are the ones it makes, and it
  makes no others.
* **`Scans.shift`**: a text that starts so many lines later makes the same tokens so many lines
  later.
* **`Scans.isUnclosed_eq_false`**: only the last token in front of the end may be unclosed.
* **`Scans.standsAlone`**: every token stands at the start of the text that is its lexeme.
* **`tokenAt_of_stands`** and **`exists_tokenAt_of_mem`**: a token starts wherever its lexeme stands
  between two pieces of a source, and nowhere else.
-/

namespace KindLex

open Lexeme Scanner

/-- `Skips part rest`: in a text that goes on with `rest`, a blank or a comment ends where `rest`
    starts. -/
inductive Skips : (part rest : List Char) → Prop where
  | blank {c rest} (hc : c ∈ [' ', '\t', '\r', '\n']) : Skips [c] rest
  | comment {body rest} (hbody : '\n' ∉ body) (hend : ∀ c ∈ rest.head?, c = '\n') :
      Skips ('/' :: '/' :: body) rest

/-- `Stands lexeme rest`: in a text that goes on with `rest`, a token begins with the lexeme, and
    the lexeme ends where `rest` starts. -/
structure Stands (lexeme rest : List Char) : Prop where
  begins : Begins (lexeme ++ rest)
  cut    : Cut lexeme rest

/-- `Scans text line tokens`: a text that starts on the line makes these tokens. -/
inductive Scans : (text : List Char) → (line : Nat) → (tokens : List Token) → Prop where
  | finish (line) : Scans [] line [Token.ofLexeme [] line]
  | skip {part rest line tokens} (hpart : Skips part rest)
      (h : Scans rest (line + part.count '\n') tokens) : Scans (part ++ rest) line tokens
  | token {lexeme rest line tokens} (hlexeme : Stands lexeme rest)
      (h : Scans rest (line + lexeme.count '\n') tokens) :
      Scans (lexeme ++ rest) line (Token.ofLexeme lexeme (line + lexeme.count '\n') :: tokens)

/-- The token, so many lines later. -/
def Token.shift (lines : Nat) (t : Token) : Token :=
  { t with line := t.line + lines }

/-- Whether a token is an error that ends only where the text does: a string without its end, or an
    apostrophe alone. -/
def Token.isUnclosed (t : Token) : Bool :=
  match t.error? with
  | some .unterminatedString     => true
  | some (.malformedCharacter _) => t.lexeme == "'"
  | _                            => false

-- ── Pieces and their right contexts ─────────────────────────────────────────────────

theorem Skips.ne_nil {part rest : List Char} (h : Skips part rest) : part ≠ [] := by
  cases h <;> exact List.cons_ne_nil _ _

/-- No token begins with what is skipped. -/
theorem Skips.not_begins {part rest : List Char} (h : Skips part rest) :
    ¬ Begins (part ++ rest) := by
  intro hbegins
  cases h with
  | @blank c rest hc => exact hbegins.blank c rfl hc
  | @comment body rest => exact hbegins.comment ⟨body ++ rest, rfl⟩

/-- There is one way to end a comment. -/
theorem comment_unique {body rest body' rest' : List Char} (hbody : '\n' ∉ body)
    (hend : ∀ c ∈ rest.head?, c = '\n') (hbody' : '\n' ∉ body')
    (hend' : ∀ c ∈ rest'.head?, c = '\n') (htext : body ++ rest = body' ++ rest') :
    body = body' ∧ rest = rest' := by
  have hinside : ∀ body : List Char, '\n' ∉ body → ∀ c ∈ body, (c != '\n') = true := by
    intro body hbody c hc
    exact bne_iff_ne.mpr fun h => hbody (h ▸ hc)
  have houtside : ∀ rest : List Char, (∀ c ∈ rest.head?, c = '\n') →
      EndsRun (· != '\n') rest := by
    intro rest hend c hc
    exact bne_eq_false_iff_eq.mpr (hend c hc)
  exact run_unique (hinside body hbody) (houtside rest hend) (hinside body' hbody')
    (houtside rest' hend') htext

/-- There is one way to skip the start of a text. -/
theorem Skips.unique {part rest part' rest' : List Char} (h : Skips part rest)
    (h' : Skips part' rest') (htext : part ++ rest = part' ++ rest') :
    part = part' ∧ rest = rest' := by
  cases h with
  | blank hc =>
      cases h' with
      | blank =>
          obtain ⟨rfl, rfl⟩ := List.cons.inj htext
          exact ⟨rfl, rfl⟩
      | comment =>
          obtain ⟨rfl, -⟩ := List.cons.inj htext
          exact absurd hc (by decide)
  | comment hbody hend =>
      cases h' with
      | blank hc =>
          obtain ⟨rfl, -⟩ := List.cons.inj htext
          exact absurd hc (by decide)
      | comment hbody' hend' =>
          have hslashes := (List.cons.inj (List.cons.inj htext).2).2
          obtain ⟨rfl, rfl⟩ := comment_unique hbody hend hbody' hend' hslashes
          exact ⟨rfl, rfl⟩

/-- What is skipped ends where it did if text is put behind its right context, and so does a
    comment at the end of a text if that text starts with a line feed. -/
theorem Skips.append {part rest more : List Char} (h : Skips part rest)
    (hmore : rest = [] → ∀ c ∈ more.head?, c = '\n') : Skips part (rest ++ more) := by
  cases h with
  | blank hc => exact .blank hc
  | comment hbody hend =>
      refine .comment hbody fun c hc => ?_
      cases rest with
      | nil => exact hmore rfl c hc
      | cons d rest => exact hend c hc

/-- A token begins with a lexeme whatever follows it, if that makes no comment. -/
theorem Begins.of_append {lexeme rest rest' : List Char} (h : Begins (lexeme ++ rest))
    (hne : lexeme ≠ []) (hcomment : ¬ ['/', '/'] <+: lexeme ++ rest') :
    Begins (lexeme ++ rest') := by
  obtain ⟨c, lexeme, rfl⟩ := List.exists_cons_of_ne_nil hne
  exact ⟨List.cons_ne_nil _ _, h.blank, hcomment⟩

/-- **A lexeme stands where it did if text at the end of its right context is taken away.** -/
theorem Stands.of_longer {lexeme rest more : List Char} (h : Stands lexeme (rest ++ more)) :
    Stands lexeme rest := by
  refine ⟨h.begins.of_append h.cut.ne_nil fun hslashes => h.begins.comment ?_, h.cut.of_longer⟩
  rw [← List.append_assoc]
  exact hslashes.trans (List.prefix_append _ more)

/-- **It stands where it did if text is put behind its right context**, out of its reach. -/
theorem Stands.append {lexeme rest more : List Char} (h : Stands lexeme rest)
    (hapart : Apart rest more) (hclosed : rest = [] → ¬ Unclosed lexeme) :
    Stands lexeme (rest ++ more) := by
  refine ⟨h.begins.of_append h.cut.ne_nil fun hslashes => h.begins.comment ?_,
    h.cut.append hapart hclosed⟩
  exact prefix_of_apart hapart (Nat.le_add_left 2 _) (by decide) hslashes

-- ── Unclosed tokens ─────────────────────────────────────────────────────────────────

theorem Token.isUnclosed_iff (t : Token) :
    t.isUnclosed = true ↔ t.error? = some .unterminatedString ∨
      t.lexeme = "'" ∧ ∃ text, t.error? = some (.malformedCharacter text) := by
  rw [isUnclosed]
  split <;> simp_all

/-- The error of a token is what its lexeme is read as. -/
theorem Token.error?_ofLexeme_eq_some_iff {lexeme : List Char} {line : Nat} {cause : LexicalError} :
    (ofLexeme lexeme line).error? = some cause ↔ Reading.ofLexeme lexeme = .error cause := by
  rw [error?_eq_some_iff,
    show (ofLexeme lexeme line).literal = (Reading.ofLexeme lexeme).literal from rfl]
  cases Reading.ofLexeme lexeme <;> simp [Reading.literal]

/-- A token is unclosed if its lexeme is. -/
theorem Stands.isUnclosed_iff {lexeme rest : List Char} (h : Stands lexeme rest) (line : Nat) :
    (Token.ofLexeme lexeme line).isUnclosed = true ↔ Unclosed lexeme := by
  have hlexeme : (Token.ofLexeme lexeme line).lexeme = "'" ↔ lexeme = ['\''] := by
    rw [← String.toList_inj, Token.toList_lexeme_ofLexeme]
    rfl
  simp only [Token.isUnclosed_iff, h.cut.spells.unclosed_iff, hlexeme,
    Token.error?_ofLexeme_eq_some_iff]

theorem Stands.not_unclosed {lexeme rest : List Char} (h : Stands lexeme rest) {line : Nat}
    (hclosed : (Token.ofLexeme lexeme line).isUnclosed = false) : ¬ Unclosed lexeme := by
  intro hopen
  rw [(h.isUnclosed_iff line).mpr hopen] at hclosed
  contradiction

-- ── A text makes its tokens and no others ───────────────────────────────────────────

theorem Scans.ne_nil {text : List Char} {line : Nat} {tokens : List Token}
    (h : Scans text line tokens) : tokens ≠ [] := by
  induction h with
  | finish => exact List.cons_ne_nil _ _
  | skip _ _ ih => exact ih
  | token => exact List.cons_ne_nil _ _

/-- At the end there is one more token. -/
theorem Scans.of_nil {line : Nat} {tokens : List Token} (h : Scans [] line tokens) :
    tokens = [Token.ofLexeme [] line] := by
  generalize htext : [] = text at h
  cases h with
  | finish => rfl
  | skip hpart => exact absurd (List.append_eq_nil_iff.mp htext.symm).1 hpart.ne_nil
  | token hlexeme => exact absurd (List.append_eq_nil_iff.mp htext.symm).1 hlexeme.cut.ne_nil

/-- What a text makes is what it makes behind a part that is skipped. -/
theorem Scans.of_skips {part rest : List Char} {line : Nat} {tokens : List Token}
    (h : Scans (part ++ rest) line tokens) (hpart : Skips part rest) :
    Scans rest (line + part.count '\n') tokens := by
  generalize htext : part ++ rest = text at h
  cases h with
  | finish => exact absurd (List.append_eq_nil_iff.mp htext).1 hpart.ne_nil
  | skip hpart' h =>
      obtain ⟨rfl, rfl⟩ := hpart.unique hpart' htext
      exact h
  | token hlexeme => exact absurd (htext ▸ hlexeme.begins) hpart.not_begins

/-- What a text makes is the token of the lexeme at its start, and what it makes behind that. -/
theorem Scans.of_stands {lexeme rest : List Char} {line : Nat} {tokens : List Token}
    (h : Scans (lexeme ++ rest) line tokens) (hlexeme : Stands lexeme rest) :
    ∃ tail, tokens = Token.ofLexeme lexeme (line + lexeme.count '\n') :: tail ∧
      Scans rest (line + lexeme.count '\n') tail := by
  generalize htext : lexeme ++ rest = text at h
  cases h with
  | finish => exact absurd (List.append_eq_nil_iff.mp htext).1 hlexeme.cut.ne_nil
  | skip hpart => exact absurd (htext ▸ hlexeme.begins) hpart.not_begins
  | token hlexeme' h =>
      obtain ⟨rfl, rfl⟩ := hlexeme.cut.unique hlexeme'.cut htext
      exact ⟨_, rfl, h⟩

/-- **A text makes no other tokens.** -/
theorem Scans.unique {text : List Char} {line : Nat} {tokens tokens' : List Token}
    (h : Scans text line tokens) (h' : Scans text line tokens') : tokens = tokens' := by
  induction h generalizing tokens' with
  | finish => exact h'.of_nil.symm
  | skip hpart _ ih => exact ih (h'.of_skips hpart)
  | token hlexeme _ ih =>
      obtain ⟨tail, rfl, htail⟩ := h'.of_stands hlexeme
      rw [ih htail]

/-- A turn gets as many lines further as there are line feeds in what it passes. -/
theorem line_of_turn {s t : Scanner} {token : Option Token} {part : List Char}
    (hturn : s.turn = (token, t)) (hsplit : s.rest = part ++ t.rest) :
    t.line = s.line + part.count '\n' := by
  obtain rfl : s.turn.2 = t := by rw [hturn]
  obtain rfl : part = s.rest.take (Piece.extent s.rest) :=
    List.append_cancel_right (hsplit.symm.trans (rest_eq_append s))
  rw [turn_snd]
  rfl

/-- **What comes from a scanner is what the text ahead makes.** -/
theorem scans_of_yields {s : Scanner} {tokens : List Token} (h : Yields s tokens) :
    Scans s.rest s.line tokens := by
  induction h with
  | finish hopen hrest =>
      rw [hrest]
      exact .finish _
  | @pass s t tokens hopen hrest hturn _ ih =>
      obtain ⟨part, hpart, hsplit⟩ : ∃ part, Skips part t.rest ∧ s.rest = part ++ t.rest := by
        rcases rest_of_turn_eq_none hrest hturn with ⟨c, hc, hcons⟩ | ⟨body, hbody, hend, hcons⟩
        · exact ⟨[c], .blank hc, hcons⟩
        · exact ⟨_, .comment hbody hend, hcons⟩
      rw [line_of_turn hturn hsplit] at ih
      rw [hsplit]
      exact .skip hpart ih
  | @token s t token tokens hopen hrest hturn _ ih =>
      obtain ⟨lexeme, hcut, hsplit, rfl⟩ := cut_of_turn_eq_some hrest hturn
      have hbegins := begins_iff.mpr ⟨hrest, ofText_of_turn_eq_some hturn⟩
      rw [line_of_turn hturn hsplit] at ih ⊢
      rw [hsplit] at hbegins ⊢
      exact .token ⟨hbegins, hcut⟩ ih

/-- **The tokens of a source are the ones it makes.** -/
theorem scans_tokenize (source : String) : Scans source.toList 1 (tokenize source) :=
  scans_of_yields (yields_tokenize source)

theorem tokenize_eq_of_scans {source : String} {tokens : List Token}
    (h : Scans source.toList 1 tokens) : tokenize source = tokens :=
  (scans_tokenize source).unique h

/-- Every text makes tokens. -/
theorem exists_scans (text : List Char) (line : Nat) : ∃ tokens, Scans text line tokens :=
  ⟨_, scans_of_yields (@yields_collect ⟨text, text, 0, 0, line, false⟩ rfl)⟩

-- ── Lines, lengths and the last token ───────────────────────────────────────────────

/-- **A text that starts so many lines later makes the same tokens so many lines later.** -/
theorem Scans.shift {text : List Char} {line : Nat} {tokens : List Token}
    (h : Scans text line tokens) (lines : Nat) :
    Scans text (line + lines) (tokens.map (Token.shift lines)) := by
  induction h with
  | finish line => exact .finish _
  | skip hpart _ ih =>
      rw [Nat.add_right_comm] at ih
      exact .skip hpart ih
  | token hlexeme _ ih =>
      rw [Nat.add_right_comm] at ih
      have htoken := Scans.token hlexeme ih
      rw [Nat.add_right_comm] at htoken
      exact htoken

/-- A text makes no more tokens than it has characters, and one at its end. -/
theorem Scans.length_le {text : List Char} {line : Nat} {tokens : List Token}
    (h : Scans text line tokens) : tokens.length ≤ text.length + 1 := by
  induction h with
  | finish => exact Nat.le_refl 1
  | skip _ _ ih =>
      rw [List.length_append]
      omega
  | token hlexeme _ ih =>
      have hpos := List.length_pos_iff.mpr hlexeme.cut.ne_nil
      rw [List.length_append, List.length_cons]
      omega

/-- The token at the end is on the line that the whole text leads to. -/
theorem Scans.eq_append {text : List Char} {line : Nat} {tokens : List Token}
    (h : Scans text line tokens) :
    tokens = tokens.dropLast ++ [Token.ofLexeme [] (line + text.count '\n')] := by
  induction h with
  | finish => rfl
  | skip _ _ ih =>
      rw [List.count_append, ← Nat.add_assoc]
      exact ih
  | token _ h ih =>
      rw [List.dropLast_cons_of_ne_nil h.ne_nil, List.count_append, ← Nat.add_assoc]
      exact congrArg _ ih

/-- A token that does not mark the end of a source is in front of the one that does. -/
theorem mem_dropLast_tokenize {source : String} {t : Token} (h : t ∈ tokenize source)
    (hkind : t.kind ≠ .eof) : t ∈ (tokenize source).dropLast := by
  rw [(scans_tokenize source).eq_append] at h
  rcases List.mem_append.mp h with h | h
  · exact h
  · obtain rfl := List.mem_singleton.mp h
    exact absurd rfl hkind

/-- **Only the last token in front of the end may be unclosed.** -/
theorem Scans.isUnclosed_eq_false {text : List Char} {line : Nat} {tokens : List Token}
    (h : Scans text line tokens) : ∀ t ∈ tokens.dropLast.dropLast, t.isUnclosed = false := by
  induction h with
  | finish => exact fun t ht => nomatch ht
  | skip _ _ ih => exact ih
  | @token lexeme rest line tokens hlexeme h ih =>
      intro t ht
      rw [List.dropLast_cons_of_ne_nil h.ne_nil] at ht
      by_cases hlast : tokens.dropLast = []
      · rw [hlast] at ht
        exact nomatch ht
      · rw [List.dropLast_cons_of_ne_nil hlast] at ht
        rcases List.mem_cons.mp ht with rfl | ht
        · refine Bool.eq_false_iff.mpr fun hopen => hlast ?_
          -- behind an unclosed token the text is at its end
          obtain rfl := hlexeme.cut.rest_eq_nil ((hlexeme.isUnclosed_iff _).mp hopen)
          rw [h.of_nil]
          rfl
        · exact ih t ht

-- ── Lexemes by themselves ───────────────────────────────────────────────────────────

/-- The token stands at the start of a text that is its lexeme and no more. -/
def StandsAlone (t : Token) : Prop :=
  Stands t.lexeme.toList [] ∧ ∃ line, t = Token.ofLexeme t.lexeme.toList line

/-- Every token of a text stands alone. -/
theorem Scans.standsAlone {text : List Char} {line : Nat} {tokens : List Token}
    (h : Scans text line tokens) : ∀ t ∈ tokens.dropLast, StandsAlone t := by
  induction h with
  | finish => exact fun t ht => nomatch ht
  | skip _ _ ih => exact ih
  | token hlexeme h ih =>
      intro t ht
      rw [List.dropLast_cons_of_ne_nil h.ne_nil] at ht
      rcases List.mem_cons.mp ht with rfl | ht
      · rw [StandsAlone, Token.toList_lexeme_ofLexeme]
        exact ⟨@Stands.of_longer _ [] _ hlexeme, _, rfl⟩
      · exact ih t ht

-- ── Tokens and the places where they start ──────────────────────────────────────────

/-- A lexeme that stands ahead is passed by the next turn and makes its token. -/
theorem turn_of_stands {s : Scanner} {lexeme rest : List Char} (h : Stands lexeme rest)
    (hsplit : s.rest = lexeme ++ rest) :
    s.turn = (some (Token.ofLexeme lexeme (s.line + lexeme.count '\n')), s.turn.2) := by
  have hbegins := h.begins
  rw [← hsplit] at hbegins
  obtain ⟨hne, hpiece⟩ := begins_iff.mp hbegins
  have htext : s.rest.take (extent s.rest) ++ s.rest.drop (extent s.rest) = lexeme ++ rest :=
    (List.take_append_drop _ _).trans hsplit
  obtain ⟨hlexeme, hrest⟩ := (cut_extent hne).unique h.cut htext
  have hafter : s.turn.2.rest = rest := by
    rw [rest_turn, Piece.extent_of_lexeme hpiece, hrest]
  have hturn := turn_of_lexeme hpiece
  rw [hlexeme] at hturn
  rw [← line_of_turn hturn (by rw [hafter, hsplit])]
  exact hturn

/-- `TokenAt source s t`: the scanner stands between two pieces of the source, and the token is one
    of the source that starts there. -/
def TokenAt (source : String) (s : Scanner) (t : Token) : Prop :=
  Reachable source s ∧
    ∃ k, (tokenize source)[k]? = some t ∧ s.turn = (some t, afterTokens source (k + 1))

/-- **A lexeme that stands between two pieces of a source is the lexeme of a token there.** -/
theorem tokenAt_of_stands {source : String} {s : Scanner} {lexeme rest : List Char}
    (hs : Reachable source s) (hsplit : s.rest = lexeme ++ rest) (h : Stands lexeme rest) :
    TokenAt source s (Token.ofLexeme lexeme (s.line + lexeme.count '\n')) := by
  have hturn := turn_of_stands h hsplit
  have hne : s.rest ≠ [] := by
    rw [hsplit]
    exact List.append_ne_nil_of_left_ne_nil h.cut.ne_nil _
  obtain ⟨k, hk, hafter⟩ := exists_getElem?_of_turn hs hne hturn
  exact ⟨hs, k, hk, hafter ▸ hturn⟩

/-- **Every token but the last starts where its lexeme stands.** -/
theorem exists_tokenAt_of_mem {source : String} {t : Token} (h : t ∈ tokenize source)
    (hkind : t.kind ≠ .eof) :
    ∃ s lexeme rest, TokenAt source s t ∧ s.rest = lexeme ++ rest ∧ Stands lexeme rest ∧
      t = Token.ofLexeme lexeme (s.line + lexeme.count '\n') := by
  obtain ⟨k, hk⟩ := List.mem_iff_getElem?.mp h
  obtain ⟨s, hs, hne, hturn⟩ := exists_turn_of_getElem? hk hkind
  obtain ⟨lexeme, hcut, hsplit, rfl⟩ := cut_of_turn_eq_some hne hturn
  have hbegins := begins_iff.mpr ⟨hne, ofText_of_turn_eq_some hturn⟩
  rw [hsplit] at hbegins
  refine ⟨s, lexeme, _, ⟨hs, k, hk, hturn⟩, hsplit, ⟨hbegins, hcut⟩, ?_⟩
  rw [line_of_turn hturn hsplit]

end KindLex
