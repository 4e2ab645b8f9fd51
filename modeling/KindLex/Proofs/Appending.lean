import KindLex.Proofs.Scanner.Scans

/-!
# Text behind a source

Text put behind a source may go on with its last token.  A line feed in between keeps the two
apart, unless the last token is unclosed; and with nothing in between, what was undecided at the
end of the source was never more than two tokens.

* **`tokenize_append_newline`**: the tokens of two texts with a line feed between them.
* **`take_tokenize_append`**: the tokens that no text behind a source can change.
-/

namespace KindLex

open Lexeme

-- ── A line feed in between ──────────────────────────────────────────────────────────

/-- If only the last token in front of the end may be unclosed, and is not, none is. -/
theorem Scans.closed_of_last {text : List Char} {line : Nat} {tokens : List Token}
    (h : Scans text line tokens)
    (hlast : ∀ t ∈ tokens.dropLast.getLast?, t.isUnclosed = false) :
    ∀ t ∈ tokens.dropLast, t.isUnclosed = false := by
  intro t ht
  have hne := List.ne_nil_of_mem ht
  rw [← List.dropLast_concat_getLast hne] at ht
  rcases List.mem_append.mp ht with ht | ht
  · exact h.isUnclosed_eq_false t ht
  · obtain rfl := List.mem_singleton.mp ht
    exact hlast _ (List.getLast?_eq_some_getLast hne)

/-- Behind closed tokens and a line feed a text makes the tokens that it makes by itself. -/
theorem Scans.append_newline {text rest : List Char} {line : Nat} {tokens more : List Token}
    (h : Scans text line tokens) (hclosed : ∀ t ∈ tokens.dropLast, t.isUnclosed = false)
    (hrest : Scans rest (line + text.count '\n' + 1) more) :
    Scans (text ++ '\n' :: rest) line (tokens.dropLast ++ more) := by
  induction h with
  | finish line => exact @Scans.skip ['\n'] rest line more (.blank (by decide)) hrest
  | skip hpart _ ih =>
      rw [List.count_append, ← Nat.add_assoc] at hrest
      rw [List.append_assoc]
      refine .skip (hpart.append fun _ c hc => ?_) (ih hclosed hrest)
      exact (Option.some.inj hc).symm
  | @token lexeme behind line tokens hlexeme h ih =>
      rw [List.dropLast_cons_of_ne_nil h.ne_nil] at hclosed ⊢
      rw [List.count_append, ← Nat.add_assoc] at hrest
      rw [List.append_assoc]
      have hapart : Apart behind ('\n' :: rest) := apart_of_blank behind rest (by decide)
      have hlexeme' : Stands lexeme (behind ++ '\n' :: rest) :=
        hlexeme.append hapart fun _ => hlexeme.not_unclosed (hclosed _ List.mem_cons_self)
      refine .token hlexeme' (ih ?_ hrest)
      intro t ht
      exact hclosed t (List.mem_cons_of_mem _ ht)

/-- **The tokens of two texts with a line feed between them** are those of the first and, as many
    lines later as the first takes, those of the second. -/
theorem tokenize_append_newline (s₁ s₂ : String)
    (hlast : ∀ t ∈ (tokenize s₁).dropLast.getLast?, t.isUnclosed = false) :
    tokenize (s₁ ++ "\n" ++ s₂) =
      (tokenize s₁).dropLast ++ (tokenize s₂).map (Token.shift (s₁.toList.count '\n' + 1)) := by
  have hfirst := scans_tokenize s₁
  have hsecond := (scans_tokenize s₂).shift (s₁.toList.count '\n' + 1)
  rw [← Nat.add_assoc] at hsecond
  have htext : (s₁ ++ "\n" ++ s₂).toList = s₁.toList ++ '\n' :: s₂.toList := by
    rw [String.toList_append, String.toList_append, List.append_assoc]
    rfl
  refine tokenize_eq_of_scans ?_
  rw [htext]
  exact hfirst.append_newline (hfirst.closed_of_last hlast) hsecond

/-- A number with its point, and a digit behind the line feed. -/
theorem tokenize_append_newline_point :
    (∀ t ∈ (tokenize "adios: 3.").dropLast.getLast?, t.isUnclosed = false) ∧
      tokenize ("adios: 3." ++ "\n" ++ "5 (") =
        (tokenize "adios: 3.").dropLast ++
          (tokenize "5 (").map (Token.shift ("adios: 3.".toList.count '\n' + 1)) := by
  have hlast : ∀ t ∈ (tokenize "adios: 3.").dropLast.getLast?, t.isUnclosed = false := by
    decide +kernel
  exact ⟨hlast, tokenize_append_newline _ _ hlast⟩

/-- An apostrophe alone goes on with the line feed behind it. -/
example : tokenize ("'" ++ "\n" ++ "x") ≠
    (tokenize "'").dropLast ++ (tokenize "x").map (Token.shift 1) := by
  decide +kernel

-- ── Nothing in between ──────────────────────────────────────────────────────────────

/-- A text that makes only three tokens, the one at its end among them, settles none. -/
theorem exists_scans_of_few {tokens : List Token} (hfew : tokens.length ≤ 3) (text : List Char)
    (line : Nat) : ∃ tokens', Scans text line tokens' ∧
      tokens'.take (tokens.length - 3) = tokens.take (tokens.length - 3) := by
  obtain ⟨tokens', h'⟩ := exists_scans text line
  refine ⟨tokens', h', ?_⟩
  rw [Nat.sub_eq_zero_of_le hfew, List.take_zero, List.take_zero]

/-- All tokens but the last three, the one at the end among them, stay if text is put behind. -/
theorem Scans.take_append {text : List Char} {line : Nat} {tokens : List Token}
    (h : Scans text line tokens) (more : List Char) :
    ∃ tokens', Scans (text ++ more) line tokens' ∧
      tokens'.take (tokens.length - 3) = tokens.take (tokens.length - 3) := by
  induction h with
  | finish line =>
      refine exists_scans_of_few ?_ _ _
      exact Nat.le_add_left 1 2
  | @skip part rest line tokens hpart h ih =>
      by_cases hrest : rest = []
      · subst hrest
        rw [h.of_nil]
        refine exists_scans_of_few ?_ _ _
        exact Nat.le_add_left 1 2
      · obtain ⟨tokens', h', htake⟩ := ih
        refine ⟨tokens', ?_, htake⟩
        rw [List.append_assoc]
        exact .skip (hpart.append fun hnil => absurd hnil hrest) h'
  | @token lexeme rest line tokens hlexeme h ih =>
      by_cases hfew : tokens.length ≤ 2
      · refine exists_scans_of_few ?_ _ _
        exact Nat.succ_le_succ hfew
      · -- two tokens stand behind the lexeme, so two characters do
        have htwo : 2 ≤ rest.length := by
          have hlength := h.length_le
          omega
        have hstands : Stands lexeme (rest ++ more) := by
          refine hlexeme.append (Or.inl htwo) fun hnil => ?_
          rw [hnil] at htwo
          exact absurd htwo (by decide)
        obtain ⟨tokens', h', htake⟩ := ih
        refine ⟨Token.ofLexeme lexeme (line + lexeme.count '\n') :: tokens', ?_, ?_⟩
        · rw [List.append_assoc]
          exact .token hstands h'
        · have hsub : tokens.length + 1 - 3 = tokens.length - 3 + 1 := by omega
          rw [List.length_cons, hsub, List.take_succ_cons, List.take_succ_cons, htake]

/-- **The tokens that no text behind a source can change** are all but the last two in front of
    the end. -/
theorem take_tokenize_append (s₁ s₂ : String) :
    ∃ tokens last, tokenize s₁ = tokens ++ [last] ∧ last.kind = .eof ∧
      (∀ t ∈ tokens, t.kind ≠ .eof) ∧
      (tokenize (s₁ ++ s₂)).take (tokens.length - 2) = tokens.take (tokens.length - 2) := by
  obtain ⟨tokens, last, htokens, hlast, -, hkinds, -⟩ :=
    tiles_of_yields (Scanner.yields_tokenize s₁)
  refine ⟨tokens, last, htokens, hlast, fun t ht => (hkinds t ht).1, ?_⟩
  obtain ⟨tokens', h', htake⟩ := (scans_tokenize s₁).take_append s₂.toList
  rw [← String.toList_append] at h'
  rw [tokenize_eq_of_scans h']
  rw [htokens, List.length_append, List.length_singleton, Nat.add_sub_add_right tokens.length 1 2,
    List.take_append_of_le_length (Nat.sub_le _ _)] at htake
  exact htake

/-- Two tokens may change: the number and the point behind it become one number. -/
example : ((tokenize "x 3.").take 1 = (tokenize ("x 3." ++ "5")).take 1) ∧
    (tokenize "x 3.")[1]? ≠ (tokenize ("x 3." ++ "5"))[1]? := by
  decide +kernel

end KindLex
