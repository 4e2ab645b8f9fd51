import KindLex.Proofs.Tiling

/-!
# Lines

The line of a scanner, and of a token, is one more than the number of line feeds behind it.  A
scanner counts while it steps and not while it leaps, so this rests on what it leaps over.

* **`tokenize_lineLaw`**: the law at every point of a run, for every token, and for the end.
-/

namespace KindLex

open Scanner

/-- The line of every scanner and token of a run over a source. -/
structure LineLaw (source : String) : Prop where
  /-- At every point of a run the line counts the line feeds that are behind. -/
  visited : ∀ s, Visited source s →
    source.toList = s.behind source ++ s.rest ∧ s.line = 1 + (s.behind source).count '\n'
  /-- The places between two tokens are among those points. -/
  between : ∀ k, Visited source (afterTokens source k)
  /-- The line of a token counts the line feeds up to the end of its lexeme. -/
  token : ∀ k token, (tokenize source)[k]? = some token →
    token.lexeme.toList <:+ (afterTokens source (k + 1)).behind source ∧
      token.line = 1 + ((afterTokens source (k + 1)).behind source).count '\n'
  /-- From token to token the lines never decrease. -/
  sorted : (tokenize source).Pairwise fun t u => t.line ≤ u.line
  /-- The line of the end counts all line feeds of the source. -/
  eof : ∀ token ∈ tokenize source, token.kind = .eof → token.line = 1 + source.toList.count '\n'
  /-- A leap goes over no line feed. -/
  leap : ∀ s, Reachable source s → ∀ n, Move.leap n ∈ Piece.moves s.rest → '\n' ∉ s.rest.take n

-- ── Tokens ──────────────────────────────────────────────────────────────────────────

/-- The text behind a scanner ends with the lexeme that it just took off the text ahead. -/
theorem behind_eq_append {source : String} {s t : Scanner} {lexeme : List Char}
    (hs : Placed source s) (ht : Placed source t) (h : s.rest = lexeme ++ t.rest) :
    t.behind source = s.behind source ++ lexeme := by
  have hsource : t.behind source ++ t.rest = (s.behind source ++ lexeme) ++ t.rest := by
    rw [← ht.text, hs.text, h, List.append_assoc]
  exact List.append_cancel_right hsource

/-- At the end of the text the whole source is behind the scanner. -/
theorem behind_of_rest_eq_nil {source : String} {s : Scanner} (h : Placed source s)
    (hrest : s.rest = []) : s.behind source = source.toList := by
  rw [h.text, hrest, List.append_nil]

theorem line_of_getElem? {source : String} {k : Nat} {token : Token}
    (hk : (tokenize source)[k]? = some token) :
    token.lexeme.toList <:+ (afterTokens source (k + 1)).behind source ∧
      token.line = 1 + ((afterTokens source (k + 1)).behind source).count '\n' := by
  obtain ⟨s, hs, ⟨hrest, hturn⟩ | ⟨hrest, rfl, hfinish⟩⟩ :=
    exists_reachable_of_yields (yields_tokenize source) .start hk
  · have hafter : afterTokens source (k + 1) = s.turn.2 := (congrArg Prod.snd hturn).symm
    have hplaced := placed_of_reachable (hs.turn hrest)
    rw [← hafter] at hplaced
    obtain ⟨lexeme, -, hsplit, rfl⟩ := cut_of_turn_eq_some hrest hturn
    constructor
    · rw [behind_eq_append (placed_of_reachable hs) hplaced hsplit,
        Token.toList_lexeme_ofLexeme]
      exact List.suffix_append _ _
    · exact hplaced.line
  · have hplaced := placed_of_reachable hs
    have hafter : afterTokens source (k + 1) = s.finish := hfinish
    rw [hafter]
    exact ⟨List.nil_suffix, hplaced.line⟩

theorem line_le_of_turn {s t : Scanner} {token : Option Token} (h : s.turn = (token, t)) :
    s.line ≤ t.line := by
  rw [show t = s.turn.2 by rw [h], turn_snd]
  exact Nat.le_add_right _ _

/-- The line of a scanner is no later than those of the tokens that come from it, and these never
    decrease. -/
theorem sorted_of_yields {s : Scanner} {tokens : List Token} (h : Yields s tokens) :
    (∀ t ∈ tokens, s.line ≤ t.line) ∧ tokens.Pairwise fun t u => t.line ≤ u.line := by
  induction h with
  | finish hopen hrest =>
      refine ⟨?_, List.pairwise_singleton _ _⟩
      intro t ht
      obtain rfl := List.mem_singleton.mp ht
      exact Nat.le_refl _
  | pass hopen hrest hturn _ ih =>
      have hle := line_le_of_turn hturn
      exact ⟨fun u hu => Nat.le_trans hle (ih.1 u hu), ih.2⟩
  | @token s t token tokens hopen hrest hturn _ ih =>
      have hle := line_le_of_turn hturn
      have hline : token.line = t.line := by
        obtain ⟨lexeme, -, -, rfl⟩ := cut_of_turn_eq_some hrest hturn
        rfl
      refine ⟨?_, List.pairwise_cons.mpr ⟨fun u hu => hline ▸ ih.1 u hu, ih.2⟩⟩
      intro u hu
      rcases List.mem_cons.mp hu with rfl | hu
      · exact hline ▸ hle
      · exact Nat.le_trans hle (ih.1 u hu)

/-- The token at the end of a source has the line that the whole source leads to. -/
theorem line_of_eof {source : String} {token : Token} (hmem : token ∈ tokenize source)
    (hkind : token.kind = .eof) : token.line = 1 + source.toList.count '\n' := by
  obtain ⟨k, hk⟩ := List.mem_iff_getElem?.mp hmem
  obtain ⟨s, hs, ⟨hrest, hturn⟩ | ⟨hrest, rfl, -⟩⟩ :=
    exists_reachable_of_yields (yields_tokenize source) .start hk
  · obtain ⟨lexeme, hcut, -, rfl⟩ := cut_of_turn_eq_some hrest hturn
    exact absurd hkind (hcut.spells.kind_ne_eof hcut.ne_nil)
  · have hplaced := placed_of_reachable hs
    rw [← behind_of_rest_eq_nil hplaced hrest]
    exact hplaced.line

/-- **The line law**, for every source. -/
theorem tokenize_lineLaw (source : String) : LineLaw source where
  visited s hs := ⟨(placed_of_visited hs).text, (placed_of_visited hs).line⟩
  between k := .between (reachable_afterTokens source k)
  token _ _ hk := line_of_getElem? hk
  sorted := (sorted_of_yields (yields_tokenize source)).2
  eof _ hmem hkind := line_of_eof hmem hkind
  leap s _ n hmem := by
    obtain ⟨hleap, rfl⟩ := Piece.eq_extent_of_leap_mem hmem
    exact Piece.not_mem_take_of_isLeapt hleap

end KindLex
