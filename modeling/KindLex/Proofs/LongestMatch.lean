import KindLex.Proofs.Lexeme.Grammar
import KindLex.Proofs.Scanner.Reachable

/-!
# The longest match

A scanner decides where a lexeme ends by its first character and a few tests on what follows.  This
file shows that the tests, taken together, pick the longest lexeme of the language that starts at
the place, and give an error exactly where none does.

* **`tokenize_longestMatch`**: at every place of every source where a token begins.
-/

namespace KindLex

open Lexeme Scanner

/-- A token begins at the start of a text: neither a blank nor a comment does. -/
structure Begins (text : List Char) : Prop where
  ne_nil  : text ≠ []
  blank   : ∀ c ∈ text.head?, c ∉ [' ', '\t', '\r', '\n']
  comment : ¬ ['/', '/'] <+: text

/-- A token has the longest lexeme of the language at the start of a text, or says how there is
    none. -/
structure LongestMatch (text : List Char) (token : Token) : Prop where
  /-- Where some lexeme of the language starts, the token has the longest. -/
  accepted : (∃ w, w <+: text ∧ Grammar w) →
    Grammar token.lexeme.toList ∧ token.lexeme.toList <+: text ∧
      ∀ w, w <+: text → Grammar w → w.length ≤ token.lexeme.toList.length
  /-- Where none starts, the token is an error, with the part of the text that is rejected. -/
  rejected : (∀ w, w <+: text → ¬ Grammar w) →
    token.kind = .error ∧
      ∃ cause, token.literal = some (.error cause) ∧ Rejected text token.lexeme.toList cause

-- ── Where a token begins ────────────────────────────────────────────────────────────

/-- A token begins where the next piece is a lexeme. -/
theorem begins_iff {text : List Char} :
    Begins text ↔ text ≠ [] ∧ Piece.ofText text = .lexeme := by
  constructor
  · intro h
    obtain ⟨c, rest, rfl⟩ := List.exists_cons_of_ne_nil h.ne_nil
    have hblank : ¬ Trivia.isBlank c = true := by
      intro hc
      exact h.blank c rfl ((Trivia.isBlank_iff c).mp hc)
    rw [Piece.ofText_cons h.comment, if_neg hblank]
    exact ⟨h.ne_nil, rfl⟩
  · rintro ⟨hne, hpiece⟩
    obtain ⟨c, rest, rfl⟩ := List.exists_cons_of_ne_nil hne
    have hcomment : ¬ ['/', '/'] <+: c :: rest := by
      intro hslashes
      rw [Piece.ofText_of_slashes hslashes] at hpiece
      contradiction
    refine ⟨hne, fun d hd hmem => ?_, hcomment⟩
    obtain rfl : c = d := Option.some.inj hd
    rw [Piece.ofText_cons hcomment, if_pos ((Trivia.isBlank_iff c).mpr hmem)] at hpiece
    contradiction

-- ── What is cut off is the longest ──────────────────────────────────────────────────

/-- The cut at the start of a text makes a token with the longest match. -/
theorem longestMatch_of_cut {lexeme rest : List Char} (h : Cut lexeme rest) (line : Nat) :
    LongestMatch (lexeme ++ rest) (Token.ofLexeme lexeme line) := by
  have hlexeme := Token.toList_lexeme_ofLexeme lexeme line
  rcases h.grammar_or_rejected with hgrammar | ⟨cause, hrejected, hread, hnone⟩
  · refine ⟨fun _ => ?_, fun hnone => ?_⟩
    · rw [hlexeme]
      exact ⟨hgrammar, List.prefix_append _ _, fun w hpre hw => h.length_le hgrammar hw hpre⟩
    · exact absurd hgrammar (hnone lexeme (List.prefix_append _ _))
  · refine ⟨fun hsome => ?_, fun _ => ?_⟩
    · obtain ⟨w, hpre, hw⟩ := hsome
      exact absurd hpre (hnone w hw)
    · rw [hlexeme]
      refine ⟨?_, cause, ?_, hrejected⟩
      · show (Reading.ofLexeme lexeme).kind = .error
        rw [hread]
        rfl
      · show (Reading.ofLexeme lexeme).literal = some (.error cause)
        rw [hread]
        rfl

/-- **The longest match**, at every place of a source where a token begins; and every token but
    the last begins at such a place. -/
theorem tokenize_longestMatch (source : String) :
    (∀ s, Reachable source s → Begins s.rest →
      ∃ token, s.turn.1 = some token ∧ LongestMatch s.rest token) ∧
    ∀ k token, (tokenize source)[k]? = some token → token.kind ≠ .eof →
      ∃ s, Reachable source s ∧ Begins s.rest ∧
        s.turn = (some token, afterTokens source (k + 1)) := by
  constructor
  · intro s _ hbegins
    obtain ⟨hne, hpiece⟩ := begins_iff.mp hbegins
    have hmatch := longestMatch_of_cut (cut_extent hne) s.turn.2.line
    rw [List.take_append_drop] at hmatch
    exact ⟨_, by rw [turn_of_lexeme hpiece], hmatch⟩
  · intro k token hk hkind
    obtain ⟨s, hs, hne, hturn⟩ := exists_turn_of_getElem? hk hkind
    exact ⟨s, hs, begins_iff.mpr ⟨hne, ofText_of_turn_eq_some hturn⟩, hturn⟩

end KindLex
