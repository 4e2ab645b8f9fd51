import KindLex.Proofs.Lexeme.Spelling
import KindLex.Proofs.Scanner.Reachable

/-!
# Tokens and gaps tile the source

A run leaves no trace of the blanks and comments that it passes.  Here they come back as gaps: the
gaps and the lexemes, in turns, are the source, so no character is lost, doubled or moved.  A
comment is judged with the text behind it, since it goes on up to the end of its line.

* **`tiles_of_yields`**: the tokens that come from a scanner tile the text ahead of it.
* **`tokenize_tiles`**: the tokens of a source tile it, and behind them is the one token that marks
  its end.
-/

namespace KindLex

open Scanner

/-- `Gap gap after`: where `after` goes on behind it, a gap of blanks and comments, each comment up
    to the next line feed or the end of the text. -/
inductive Gap : (gap after : List Char) → Prop where
  | nil (after) : Gap [] after
  | blank {c gap after} (hc : c ∈ [' ', '\t', '\r', '\n']) (h : Gap gap after) :
      Gap (c :: gap) after
  | comment {body gap after} (hbody : '\n' ∉ body) (hend : ∀ c ∈ (gap ++ after).head?, c = '\n')
      (h : Gap gap after) : Gap ('/' :: '/' :: (body ++ gap)) after

/-- `Tiles text tokens`: the text is a gap, then the lexeme of the first token, then a gap, and so
    on up to a gap behind the last token. -/
inductive Tiles : (text : List Char) → (tokens : List Token) → Prop where
  | last {gap} (hgap : Gap gap []) : Tiles gap []
  | token {gap token rest tokens} (hgap : Gap gap (token.lexeme.toList ++ rest))
      (h : Tiles rest tokens) : Tiles (gap ++ (token.lexeme.toList ++ rest)) (token :: tokens)

-- ── Trivia goes into the gap behind it ──────────────────────────────────────────────

theorem Tiles.blank {c : Char} {text : List Char} {tokens : List Token} (h : Tiles text tokens)
    (hc : c ∈ [' ', '\t', '\r', '\n']) : Tiles (c :: text) tokens := by
  cases h with
  | last hgap => exact .last (.blank hc hgap)
  | token hgap h => exact Tiles.token (.blank hc hgap) h

theorem Tiles.comment {body text : List Char} {tokens : List Token} (h : Tiles text tokens)
    (hbody : '\n' ∉ body) (hend : ∀ c ∈ text.head?, c = '\n') :
    Tiles ('/' :: '/' :: (body ++ text)) tokens := by
  cases h with
  | last hgap => exact .last (.comment hbody (by rwa [List.append_nil]) hgap)
  | @token gap token rest tokens hgap h =>
      have hsame : '/' :: '/' :: (body ++ (gap ++ (token.lexeme.toList ++ rest)))
          = ('/' :: '/' :: (body ++ gap)) ++ (token.lexeme.toList ++ rest) := by
        simp only [List.cons_append, List.append_assoc]
      rw [hsame]
      exact .token (.comment hbody hend hgap) h

-- ── What a turn takes off the text ahead ────────────────────────────────────────────

/-- A turn over a comment takes it off up to the end of its line. -/
theorem rest_of_slashes {s : Scanner} (hslashes : ['/', '/'] <+: s.rest) :
    ∃ body, '\n' ∉ body ∧ (∀ c ∈ s.turn.2.rest.head?, c = '\n') ∧
      s.rest = '/' :: '/' :: (body ++ s.turn.2.rest) := by
  have hextent : Piece.extent s.rest = Lexeme.run (· != '\n') s.rest := by
    rw [Piece.extent, Piece.ofText_of_slashes hslashes, Trivia.commentExtent]
  have hstop : s.turn.2.rest = s.rest.dropWhile (· != '\n') := by
    rw [rest_turn, hextent, Lexeme.drop_run]
  have hsplit := rest_eq_append s
  obtain ⟨tail, htail⟩ := hslashes
  have hbody : s.rest.takeWhile (· != '\n') = '/' :: '/' :: tail.takeWhile (· != '\n') := by
    rw [← htail]
    rfl
  refine ⟨tail.takeWhile (· != '\n'), ?_, ?_, ?_⟩
  · intro hmem
    exact absurd (List.mem_takeWhile_imp hmem) (by decide)
  · intro c hc
    have hend := Lexeme.endsRun_dropWhile (· != '\n') s.rest c (hstop ▸ hc)
    simpa using hend
  · rw [hextent, Lexeme.take_run, hbody] at hsplit
    exact hsplit

/-- A turn over a blank takes off one character. -/
theorem rest_of_blank {s : Scanner} {c : Char} {rest : List Char} (hcons : s.rest = c :: rest)
    (hslashes : ¬ ['/', '/'] <+: c :: rest) (hblank : Trivia.isBlank c = true) :
    s.turn.2.rest = rest := by
  have hextent : Piece.extent s.rest = 1 := by
    rw [Piece.extent, hcons, Piece.ofText_cons hslashes, if_pos hblank]
  rw [rest_turn, hextent, hcons]
  rfl

/-- A turn that yields nothing takes off a blank, or a comment up to the end of its line. -/
theorem rest_of_turn_eq_none {s t : Scanner} (hrest : s.rest ≠ []) (hturn : s.turn = (none, t)) :
    (∃ c, c ∈ [' ', '\t', '\r', '\n'] ∧ s.rest = c :: t.rest) ∨
      ∃ body, '\n' ∉ body ∧ (∀ c ∈ t.rest.head?, c = '\n') ∧
        s.rest = '/' :: '/' :: (body ++ t.rest) := by
  obtain rfl : s.turn.2 = t := by rw [hturn]
  by_cases hslashes : ['/', '/'] <+: s.rest
  · exact Or.inr (rest_of_slashes hslashes)
  · left
    obtain ⟨c, rest, hcons⟩ := List.exists_cons_of_ne_nil hrest
    rw [hcons] at hslashes
    by_cases hblank : Trivia.isBlank c = true
    · refine ⟨c, (Trivia.isBlank_iff c).mp hblank, ?_⟩
      rw [rest_of_blank hcons hslashes hblank]
      exact hcons
    · have hpiece := Piece.ofText_cons hslashes
      rw [if_neg hblank, ← hcons] at hpiece
      exact absurd hpiece (ofText_of_turn_eq_none hturn)

-- ── Tokens and gaps in turns ───────────────────────────────────────────────────────

/-- The tokens that come from a scanner tile the text ahead of it. -/
theorem tiles_of_yields {s : Scanner} {tokens : List Token} (h : Yields s tokens) :
    ∃ before last, tokens = before ++ [last] ∧ last.kind = .eof ∧ last.lexeme = "" ∧
      (∀ t ∈ before, t.kind ≠ .eof ∧ t.lexeme ≠ "") ∧ Tiles s.rest before := by
  induction h with
  | @finish s hopen hrest =>
      refine ⟨[], _, rfl, rfl, rfl, (fun t ht => nomatch ht), ?_⟩
      rw [hrest]
      exact .last (.nil [])
  | pass hopen hrest hturn _ ih =>
      obtain ⟨before, last, rfl, hkind, hlexeme, hbefore, htiles⟩ := ih
      refine ⟨before, last, rfl, hkind, hlexeme, hbefore, ?_⟩
      rcases rest_of_turn_eq_none hrest hturn with ⟨c, hc, hcons⟩ | ⟨body, hbody, hend, hcons⟩
      · rw [hcons]
        exact htiles.blank hc
      · rw [hcons]
        exact htiles.comment hbody hend
  | @token s t token tokens hopen hrest hturn _ ih =>
      obtain ⟨before, last, rfl, hkind, hlexeme, hbefore, htiles⟩ := ih
      obtain ⟨lexeme, hcut, hsplit, rfl⟩ := cut_of_turn_eq_some hrest hturn
      refine ⟨_ :: before, last, rfl, hkind, hlexeme, ?_, ?_⟩
      · intro u hu
        rcases List.mem_cons.mp hu with rfl | hu
        · refine ⟨hcut.spells.kind_ne_eof hcut.ne_nil, fun hempty => ?_⟩
          exact hcut.ne_nil (String.ofList_eq_empty_iff.mp hempty)
        · exact hbefore u hu
      · have htoken := @Tiles.token [] (Token.ofLexeme lexeme t.line) _ _ (.nil _) htiles
        rw [Token.toList_lexeme_ofLexeme] at htoken
        rw [hsplit]
        exact htoken

/-- **The tokens of a source tile it**, and one token behind them marks the end. -/
theorem tokenize_tiles (source : String) :
    ∃ tokens last, tokenize source = tokens ++ [last] ∧ last.kind = .eof ∧ last.lexeme = "" ∧
      (∀ t ∈ tokens, t.kind ≠ .eof ∧ t.lexeme ≠ "") ∧ Tiles source.toList tokens :=
  tiles_of_yields (yields_tokenize source)

end KindLex
