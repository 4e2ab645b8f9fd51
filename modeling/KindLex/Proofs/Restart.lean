import KindLex.Proofs.Scanner.Scans

/-!
# Starting again on a part of a source

A scanner that has yielded some tokens stands at a place of its source.  This file shows that the
text ahead is all that it still goes by: a scanner that starts on that text alone yields the same
tokens, only with the lines that are behind the place left out.  Nor does a token depend on more
than its lexeme: a scanner that starts on the lexeme alone yields the token again.

* **`drop_tokenize`**: behind any number of tokens of a source.
* **`tokenize_lexeme`**: on the lexeme of any token of a source.
-/

namespace KindLex

open Scanner

namespace Scanner

/-- Behind some tokens the rest of them is to come. -/
theorem collect_take (s : Scanner) (k : Nat) : (s.take k).2.collect.1 = s.collect.1.drop k := by
  induction k generalizing s with
  | zero => rfl
  | succ k ih =>
      cases hnext : s.next? with
      | none =>
          rw [take_of_next?_eq_none hnext, collect_of_next?_eq_none hnext]
          rfl
      | some read =>
          obtain ⟨token, t⟩ := read
          rw [take_succ_of_next? hnext, ih, collect_of_next? hnext]
          rfl

/-- As long as tokens are to come the last one is not out. -/
theorem finished_of_collect {s : Scanner} (h : s.collect.1 ≠ []) : s.finished = false := by
  refine Bool.eq_false_iff.mpr fun hfinished => h ?_
  rw [collect_of_next?_eq_none (next?_of_finished hfinished)]

/-- The tokens behind the first `k` are those that the text ahead makes from the line reached. -/
theorem scans_afterTokens {source : String} {k : Nat} (hk : k < (tokenize source).length) :
    Scans (afterTokens source k).rest (afterTokens source k).line ((tokenize source).drop k) := by
  have hdrop : (afterTokens source k).collect.1 = (tokenize source).drop k :=
    collect_take (ofText source) k
  have hopen : (afterTokens source k).finished = false := by
    refine finished_of_collect ?_
    rw [hdrop]
    exact List.ne_nil_of_length_pos (by rw [List.length_drop]; omega)
  rw [← hdrop]
  exact scans_of_yields (yields_collect hopen)

end Scanner

/-- **Starting again between two tokens.**  Behind the first `k` tokens the source parts into what
    is behind the scanner and what is ahead, and the tokens still to come are those of what is
    ahead, as many lines later as there are line feeds behind. -/
theorem drop_tokenize (source : String) (k : Nat) (hk : k ≤ (tokenize source).dropLast.length) :
    ∃ before after : String, source = before ++ after ∧
      before.utf8ByteSize = (afterTokens source k).stop ∧
      (tokenize source).drop k =
        (tokenize after).map (Token.shift (before.toList.count '\n')) := by
  have hne : tokenize source ≠ [] := (scans_tokenize source).ne_nil
  have hlt : k < (tokenize source).length := by
    have hpos := List.length_pos_iff.mpr hne
    rw [List.length_dropLast] at hk
    omega
  have hplaced := placed_of_reachable (reachable_afterTokens source k)
  have hscans := scans_afterTokens hlt
  rw [hplaced.line] at hscans
  refine ⟨String.ofList ((afterTokens source k).behind source),
    String.ofList (afterTokens source k).rest, ?_, ?_, ?_⟩
  · rw [← String.ofList_append, ← hplaced.text, String.ofList_toList]
  · rw [Text.utf8ByteSize_ofList, ← hplaced.stop]
  · have hafter := scans_tokenize (String.ofList (afterTokens source k).rest)
    rw [String.toList_ofList] at hafter ⊢
    exact hscans.unique (hafter.shift _)

/-- Behind a string over two lines and the name that follows it. -/
theorem drop_tokenize_two :
    2 ≤ (tokenize "\"a\nb\" x 'c").dropLast.length ∧
      ∃ before after : String, "\"a\nb\" x 'c" = before ++ after ∧
        before.utf8ByteSize = (afterTokens "\"a\nb\" x 'c" 2).stop ∧
        (tokenize "\"a\nb\" x 'c").drop 2 =
          (tokenize after).map (Token.shift (before.toList.count '\n')) := by
  have htwo : 2 ≤ (tokenize "\"a\nb\" x 'c").dropLast.length := by
    decide +kernel
  exact ⟨htwo, drop_tokenize _ 2 htwo⟩

-- ── On a lexeme ─────────────────────────────────────────────────────────────────────

/-- **Starting again on a lexeme.**  The lexeme of a token makes the token, as many lines down as it
    goes itself, and the end on that line. -/
theorem tokenize_lexeme {source : String} {t : Token} (h : t ∈ tokenize source)
    (hkind : t.kind ≠ .eof) :
    tokenize t.lexeme =
      [{ t with line := 1 + t.lexeme.toList.count '\n' },
        ⟨.eof, "", none, 1 + t.lexeme.toList.count '\n'⟩] := by
  obtain ⟨hstands, line, ht⟩ :=
    (scans_tokenize source).standsAlone t (mem_dropLast_tokenize h hkind)
  have hscans := Scans.token hstands (.finish (1 + t.lexeme.toList.count '\n'))
  rw [List.append_nil] at hscans
  have htoken : Token.ofLexeme t.lexeme.toList (1 + t.lexeme.toList.count '\n') =
      { t with line := 1 + t.lexeme.toList.count '\n' } := by
    rw [ht, Token.toList_lexeme_ofLexeme]
    rfl
  rw [htoken] at hscans
  exact tokenize_eq_of_scans hscans

/-- A string without its end, which goes over a line feed and is behind a word. -/
theorem tokenize_lexeme_openString :
    (⟨.error, "\"b\nc", some (.error .unterminatedString), 3⟩ : Token) ∈ tokenize "a\n\"b\nc" ∧
      tokenize "\"b\nc" =
        [⟨.error, "\"b\nc", some (.error .unterminatedString), 2⟩, ⟨.eof, "", none, 2⟩] := by
  have hmem : (⟨.error, "\"b\nc", some (.error .unterminatedString), 3⟩ : Token) ∈
      tokenize "a\n\"b\nc" := by
    decide +kernel
  exact ⟨hmem, tokenize_lexeme hmem nofun⟩

end KindLex
