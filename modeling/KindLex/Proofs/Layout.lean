import KindLex.Proofs.Scanner.Scans

/-!
# Layout

The tokens of a source may be written down again with other blanks and comments between them.  As
long as a blank comes behind every token but the last, no token gets to see what was changed.

* **`tokenize_laidOut`**: a source that is laid out anew keeps the kinds, lexemes and values of its
  tokens.
-/

namespace KindLex

open Lexeme

/-- Blanks, and comments with the line feed that ends them. -/
inductive Filler : (gap : List Char) → Prop where
  | nil : Filler []
  | blank {c gap} (hc : c ∈ [' ', '\t', '\r', '\n']) (h : Filler gap) : Filler (c :: gap)
  | comment {body gap} (hbody : '\n' ∉ body) (h : Filler gap) :
      Filler ('/' :: '/' :: (body ++ '\n' :: gap))

/-- A filler that starts with a blank. -/
structure Separator (gap : List Char) : Prop where
  filler : Filler gap
  blank  : ∃ c ∈ gap.head?, c ∈ [' ', '\t', '\r', '\n']

/-- `LaidOut tokens text`: the text is the lexemes of the tokens, each with a separator behind it.
    Behind the last one there may be nothing, and nothing may be behind it if it is unclosed. -/
inductive LaidOut : (tokens : List Token) → (text : List Char) → Prop where
  | nil : LaidOut [] []
  | last {t gap} (hgap : gap = [] ∨ Separator gap ∧ t.isUnclosed = false) :
      LaidOut [t] (t.lexeme.toList ++ gap)
  | token {t tokens gap text} (hgap : Separator gap) (hne : tokens ≠ []) (h : LaidOut tokens text) :
      LaidOut (t :: tokens) (t.lexeme.toList ++ (gap ++ text))

/-- What a token is, on whatever line. -/
def Token.content (t : Token) : Kind × String × Option Literal :=
  (t.kind, t.lexeme, t.literal)

-- ── Fillers ─────────────────────────────────────────────────────────────────────────

/-- A text with a filler in front makes the tokens that it makes by itself. -/
theorem Filler.scans {gap rest : List Char} {line : Nat} {tokens : List Token} (h : Filler gap)
    (hrest : Scans rest (line + gap.count '\n') tokens) : Scans (gap ++ rest) line tokens := by
  induction h generalizing line with
  | nil => exact hrest
  | @blank c gap hc _ ih =>
      refine @Scans.skip [c] (gap ++ rest) line tokens (.blank hc) (ih ?_)
      rw [← List.singleton_append, List.count_append, ← Nat.add_assoc] at hrest
      exact hrest
  | @comment body gap hbody _ ih =>
      -- the comment goes up to its line feed, and that is a blank
      have hcomment : Skips ('/' :: '/' :: body) ('\n' :: (gap ++ rest)) :=
        .comment hbody fun c hc => (Option.some.inj hc).symm
      have hfeed : Skips ['\n'] (gap ++ rest) := .blank (by decide)
      have hsplit : '/' :: '/' :: (body ++ '\n' :: gap) =
          '/' :: '/' :: body ++ (['\n'] ++ gap) := rfl
      rw [hsplit] at hrest ⊢
      rw [List.count_append, List.count_append, ← Nat.add_assoc, ← Nat.add_assoc] at hrest
      rw [List.append_assoc, List.append_assoc]
      exact .skip hcomment (.skip hfeed (ih hrest))

/-- A separator is out of the reach of what stands in front of it. -/
theorem Separator.apart {gap : List Char} (h : Separator gap) (more : List Char) :
    Apart [] (gap ++ more) := by
  obtain ⟨c, hc, hblank⟩ := h.blank
  obtain ⟨gap, rfl⟩ := List.head?_eq_some_iff.mp hc
  exact apart_of_blank [] (gap ++ more) ((Trivia.isBlank_iff c).mpr hblank)

-- ── Tokens in other places ──────────────────────────────────────────────────────────

/-- But for its line a token is the same wherever its lexeme is. -/
theorem StandsAlone.content_eq {t : Token} (h : StandsAlone t) (line : Nat) :
    (Token.ofLexeme t.lexeme.toList line).content = t.content := by
  obtain ⟨-, line', ht⟩ := h
  rw [ht, Token.toList_lexeme_ofLexeme]
  rfl

/-- A closed token that stands alone stands also in front of a separator. -/
theorem StandsAlone.stands {t : Token} (h : StandsAlone t) (hclosed : t.isUnclosed = false)
    {gap : List Char} (hgap : Separator gap) (more : List Char) :
    Stands t.lexeme.toList (gap ++ more) := by
  obtain ⟨hstands, line, ht⟩ := h
  rw [ht] at hclosed
  exact hstands.append (hgap.apart more) fun _ => hstands.not_unclosed hclosed

-- ── Texts laid out anew ─────────────────────────────────────────────────────────────

/-- A text laid out with tokens that stand alone makes tokens with the same content. -/
theorem LaidOut.scans {tokens : List Token} {text : List Char} (h : LaidOut tokens text)
    (halone : ∀ t ∈ tokens, StandsAlone t) (hclosed : ∀ t ∈ tokens.dropLast, t.isUnclosed = false)
    (line : Nat) :
    ∃ tokens', Scans text line tokens' ∧
      tokens'.map Token.content = tokens.map Token.content ++ [(Token.ofLexeme [] 0).content] := by
  induction h generalizing line with
  | nil => exact ⟨_, .finish line, rfl⟩
  | @last t gap hgap =>
      have ht := halone t List.mem_cons_self
      have hstands : Stands t.lexeme.toList gap := by
        rcases hgap with rfl | ⟨hgap, hopen⟩
        · exact ht.1
        · rw [← List.append_nil gap]
          exact ht.stands hopen hgap []
      have hfiller : Filler gap := by
        rcases hgap with rfl | ⟨hgap, -⟩
        · exact .nil
        · exact hgap.filler
      have hgapscans := hfiller.scans (.finish (line + t.lexeme.toList.count '\n' + gap.count '\n'))
      rw [List.append_nil] at hgapscans
      refine ⟨_, .token hstands hgapscans, ?_⟩
      rw [List.map_cons, ht.content_eq]
      rfl
  | @token t tokens gap text hgap hne _ ih =>
      rw [List.dropLast_cons_of_ne_nil hne] at hclosed
      have ht := halone t List.mem_cons_self
      have hstands := ht.stands (hclosed t List.mem_cons_self) hgap text
      obtain ⟨tokens', h', hcontent⟩ := ih (fun u hu => halone u (List.mem_cons_of_mem _ hu))
        (fun u hu => hclosed u (List.mem_cons_of_mem _ hu))
        (line + t.lexeme.toList.count '\n' + gap.count '\n')
      refine ⟨_, .token hstands (hgap.filler.scans h'), ?_⟩
      rw [List.map_cons, ht.content_eq, hcontent]
      rfl

/-- **A source that is laid out anew keeps the content of its tokens**, the one at its end among
    them: their kinds, lexemes and values. -/
theorem tokenize_laidOut (source : String) (lead text : List Char) (hlead : Filler lead)
    (htext : LaidOut (tokenize source).dropLast text) :
    (tokenize (String.ofList (lead ++ text))).map Token.content =
      (tokenize source).map Token.content := by
  have hsource := scans_tokenize source
  obtain ⟨tokens, htokens, hcontent⟩ :=
    htext.scans hsource.standsAlone hsource.isUnclosed_eq_false (1 + lead.count '\n')
  have hlaidOut : tokenize (String.ofList (lead ++ text)) = tokens := by
    refine tokenize_eq_of_scans ?_
    rw [String.toList_ofList]
    exact hlead.scans htokens
  rw [hlaidOut, hcontent, hsource.eq_append, List.dropLast_concat, List.map_append]
  rfl

/-- A word that is no name, an operator that is none, and a character literal without its end, each
    on a line of its own. -/
theorem tokenize_laidOut_lines :
    Filler "// x\n".toList ∧
      LaidOut (tokenize "\u00e91!'a").dropLast
        ("\u00e91".toList ++ ("\n".toList ++ ("!".toList ++ ("\t// y\n".toList ++
          ("'a".toList ++ "\n".toList))))) ∧
      (tokenize (String.ofList ("// x\n".toList ++
          ("\u00e91".toList ++ ("\n".toList ++ ("!".toList ++ ("\t// y\n".toList ++
            ("'a".toList ++ "\n".toList)))))))).map Token.content =
        (tokenize "\u00e91!'a").map Token.content := by
  have hlead : Filler "// x\n".toList := @Filler.comment " x".toList [] (by decide) .nil
  have hfeed : Separator "\n".toList := ⟨.blank (by decide) .nil, '\n', rfl, by decide⟩
  have hnote : Separator "\t// y\n".toList :=
    ⟨.blank (by decide) (@Filler.comment " y".toList [] (by decide) .nil), '\t', rfl, by decide⟩
  have htokens : (tokenize "\u00e91!'a").dropLast =
      [Token.ofLexeme "\u00e91".toList 1, Token.ofLexeme "!".toList 1,
        Token.ofLexeme "'a".toList 1] := by
    decide +kernel
  have htext : LaidOut (tokenize "\u00e91!'a").dropLast
      ("\u00e91".toList ++ ("\n".toList ++ ("!".toList ++ ("\t// y\n".toList ++
        ("'a".toList ++ "\n".toList))))) := by
    have hlast : (Token.ofLexeme "'a".toList 1).isUnclosed = false := by decide +kernel
    rw [htokens]
    exact .token hfeed (by simp) (.token hnote (by simp) (.last (Or.inr ⟨hfeed, hlast⟩)))
  exact ⟨hlead, htext, tokenize_laidOut _ _ _ hlead htext⟩

end KindLex
