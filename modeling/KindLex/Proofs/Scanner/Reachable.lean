import KindLex.Proofs.Scanner.Passage
import KindLex.Scanner.Run

/-!
# Where a run takes a scanner

A run over a source is a sequence of turns, and a turn a sequence of moves.  `Reachable` holds of
the scanners that stand between two pieces, `Visited` of those at any point of a run.  `Yields`
says which tokens come from a scanner, turn by turn; what holds of all tokens of a source is shown
by induction on it.

* **`placed_of_visited`**: at every point of a run the text behind the scanner and the text ahead
  make up the source, and the scanner knows the bytes and the lines behind it.
* **`yields_collect`**: a run collects what its turns yield.
* **`exists_turn_of_getElem?`**: every token but the last comes from a turn over a lexeme.
* **`exists_getElem?_of_turn`**: and every turn over a lexeme yields a token of the source.
* **`cut_of_turn_eq_some`**: such a turn cuts the lexeme of the token off the text ahead.
-/

namespace KindLex.Scanner

/-- The scanners that stand between two pieces of a source, or behind its last token. -/
inductive Reachable (source : String) : Scanner → Prop where
  | start : Reachable source (ofText source)
  | turn {s} (h : Reachable source s) (hrest : s.rest ≠ []) : Reachable source s.turn.2
  | finish {s} (h : Reachable source s) (hrest : s.rest = []) : Reachable source s.finish

/-- The scanners at any point of a run, those between two moves of a turn among them. -/
inductive Visited (source : String) : Scanner → Prop where
  | between {s} (h : Reachable source s) : Visited source s
  | within {s moves} (h : Reachable source s) (hmoves : moves <+: Piece.moves s.rest) :
      Visited source (moves.foldl move s.mark)

/-- The part of a source that is behind a scanner. -/
def behind (source : String) (s : Scanner) : List Char :=
  Text.takeBytes s.stop source.toList

/-- `s` stands in the source, and its counts are those of the text behind it. -/
structure Placed (source : String) (s : Scanner) : Prop where
  text : source.toList = s.behind source ++ s.rest
  stop : s.stop = Text.byteCount (s.behind source)
  line : s.line = 1 + (s.behind source).count '\n'

-- ── Places ──────────────────────────────────────────────────────────────────────────

theorem Placed.of_append {source : String} {s : Scanner} {passed : List Char}
    (htext : source.toList = passed ++ s.rest) (hstop : s.stop = Text.byteCount passed)
    (hline : s.line = 1 + passed.count '\n') : s.behind source = passed ∧ Placed source s := by
  have hbehind : s.behind source = passed := by
    rw [behind, hstop, htext, Text.takeBytes_byteCount_append]
  exact ⟨hbehind, ⟨by rw [hbehind, htext], by rw [hbehind, hstop], by rw [hbehind, hline]⟩⟩

theorem behind_ofText (source : String) :
    (ofText source).behind source = [] ∧ Placed source (ofText source) :=
  Placed.of_append rfl rfl rfl

/-- Passing `n` characters puts them behind the scanner. -/
theorem behind_advance {source : String} {s : Scanner} (h : Placed source s) (n : Nat) :
    (s.advance n).behind source = s.behind source ++ s.rest.take n ∧
      Placed source (s.advance n) := by
  refine Placed.of_append ?_ ?_ ?_
  · rw [h.text, List.append_assoc]
    exact congrArg _ (List.take_append_drop n s.rest).symm
  · rw [Text.byteCount_append, ← h.stop]
    rfl
  · rw [List.count_append, ← Nat.add_assoc, ← h.line]
    rfl

theorem turn_snd (s : Scanner) : s.turn.2 = s.advance (Piece.extent s.rest) := by
  rw [← pass_eq_advance, turn]
  split <;> rfl

/-- A turn over a lexeme yields what was cut off the text ahead. -/
theorem turn_of_lexeme {s : Scanner} (h : Piece.ofText s.rest = .lexeme) :
    s.turn = (some (Token.ofLexeme (s.rest.take (Lexeme.extent s.rest)) s.turn.2.line),
      s.turn.2) := by
  have hextent := Piece.extent_of_lexeme h
  have hline : s.turn.2.line = s.pass.line := by rw [turn_snd, pass_eq_advance]
  have hafter : s.turn.2 = s.pass := by rw [turn_snd, pass_eq_advance]
  rw [hline, hafter, turn, h]
  dsimp only
  rw [pass_eq_advance, lexeme_advance, hextent]

/-- A turn over a blank or a comment yields nothing. -/
theorem turn_of_trivia {s : Scanner} (h : Piece.ofText s.rest ≠ .lexeme) :
    s.turn = (none, s.turn.2) := by
  cases hpiece : Piece.ofText s.rest with
  | lexeme => exact absurd hpiece h
  | blank | comment => rw [turn, hpiece]

/-- Only a lexeme yields a token. -/
theorem ofText_of_turn_eq_some {s t : Scanner} {token : Token} (h : s.turn = (some token, t)) :
    Piece.ofText s.rest = .lexeme := by
  by_contra hpiece
  rw [turn_of_trivia hpiece] at h
  exact absurd (congrArg Prod.fst h) (by simp)

/-- Only a blank or a comment yields nothing. -/
theorem ofText_of_turn_eq_none {s t : Scanner} (h : s.turn = (none, t)) :
    Piece.ofText s.rest ≠ .lexeme := by
  intro hpiece
  rw [turn_of_lexeme hpiece] at h
  exact absurd (congrArg Prod.fst h) (by simp)

/-- A turn takes its piece off the text ahead. -/
theorem rest_eq_append (s : Scanner) :
    s.rest = s.rest.take (Piece.extent s.rest) ++ s.turn.2.rest := by
  rw [rest_turn, List.take_append_drop]

/-- A turn that yields a token cuts its lexeme off the text ahead. -/
theorem cut_of_turn_eq_some {s t : Scanner} {token : Token} (hrest : s.rest ≠ [])
    (hturn : s.turn = (some token, t)) :
    ∃ lexeme, Lexeme.Cut lexeme t.rest ∧ s.rest = lexeme ++ t.rest ∧
      token = Token.ofLexeme lexeme t.line := by
  have hpiece := ofText_of_turn_eq_some hturn
  have hextent := Piece.extent_of_lexeme hpiece
  have hahead : t.rest = s.rest.drop (Lexeme.extent s.rest) := by
    rw [← hextent, ← rest_turn, hturn]
  rw [turn_of_lexeme hpiece] at hturn
  obtain ⟨htoken, hafter⟩ := Prod.mk.inj hturn
  refine ⟨s.rest.take (Lexeme.extent s.rest), ?_, ?_, ?_⟩
  · rw [hahead]
    exact Lexeme.cut_extent hrest
  · rw [hahead, List.take_append_drop]
  · rw [← hafter]
    exact (Option.some.inj htoken).symm

theorem placed_of_reachable {source : String} {s : Scanner} (h : Reachable source s) :
    Placed source s := by
  induction h with
  | start => exact (behind_ofText source).2
  | @turn s _ _ ih =>
      rw [turn_snd]
      exact (behind_advance ih _).2
  | finish _ _ ih => exact ⟨ih.text, ih.stop, ih.line⟩

/-- **At every point of a run the scanner knows where it stands.** -/
theorem placed_of_visited {source : String} {s : Scanner} (h : Visited source s) :
    Placed source s := by
  cases h with
  | between h => exact placed_of_reachable h
  | within h hmoves =>
      obtain ⟨n, hn⟩ := exists_foldl_eq_advance hmoves
      rw [hn]
      exact (behind_advance (placed_of_reachable h) n).2

-- ── What a run yields ───────────────────────────────────────────────────────────────

/-- The tokens that are still to come from a scanner. -/
inductive Yields : Scanner → List Token → Prop where
  | finish {s} (hopen : s.finished = false) (hrest : s.rest = []) :
      Yields s [Token.ofLexeme [] s.line]
  | pass {s t tokens} (hopen : s.finished = false) (hrest : s.rest ≠ [])
      (hturn : s.turn = (none, t)) (h : Yields t tokens) : Yields s tokens
  | token {s t token tokens} (hopen : s.finished = false) (hrest : s.rest ≠ [])
      (hturn : s.turn = (some token, t)) (h : Yields t tokens) : Yields s (token :: tokens)

theorem collect_of_next? {s t : Scanner} {token : Token} (h : s.next? = some (token, t)) :
    s.collect = (token :: t.collect.1, t.collect.2) := by
  rw [collect]
  split
  · rename_i hnone
    rw [hnone] at h
    contradiction
  · rename_i hsome
    rw [hsome] at h
    obtain ⟨rfl, rfl⟩ := Prod.mk.inj (Option.some.inj h)
    rfl

theorem collect_of_next?_eq_none {s : Scanner} (h : s.next? = none) : s.collect = ([], s) := by
  rw [collect]
  split
  · rfl
  · rename_i hsome
    rw [h] at hsome
    contradiction

theorem collect_finish (s : Scanner) : s.finish.collect = ([], s.finish) :=
  collect_of_next?_eq_none rfl

theorem next?_of_open {s : Scanner} (hopen : s.finished = false) : s.next? = some s.next := by
  rw [next?, hopen]
  rfl

theorem next?_of_finished {s : Scanner} (hdone : s.finished = true) : s.next? = none := by
  rw [next?, hdone]
  rfl

theorem finished_turn (s : Scanner) : s.turn.2.finished = s.finished := by
  rw [turn_snd]
  rfl

/-- **A run collects what its turns yield.** -/
theorem yields_collect {s : Scanner} (hopen : s.finished = false) : Yields s s.collect.1 := by
  induction hn : s.rest.length using Nat.strongRecOn generalizing s with
  | ind n ih =>
      subst hn
      have hnext := next?_of_open hopen
      by_cases hrest : s.rest = []
      · rw [next_of_rest_eq_nil hrest] at hnext
        rw [collect_of_next? hnext, collect_finish]
        exact .finish hopen hrest
      · have hlt := length_rest_turn_lt hrest
        have hopen' := (finished_turn s).trans hopen
        cases hturn : s.turn with
        | mk token t =>
            rw [hturn] at hlt hopen'
            have htail := ih _ hlt hopen' rfl
            cases token with
            | some token =>
                rw [next_of_turn_eq_some hrest hturn] at hnext
                rw [collect_of_next? hnext]
                exact .token hopen hrest hturn htail
            | none =>
                rw [next_of_turn_eq_none hrest hturn, ← next?_of_open hopen'] at hnext
                have hsame : s.collect = t.collect := by
                  rw [collect_of_next? (hnext.trans (next?_of_open hopen')),
                    collect_of_next? (next?_of_open hopen')]
                rw [hsame]
                exact .pass hopen hrest hturn htail

theorem yields_tokenize (source : String) : Yields (ofText source) (tokenize source) :=
  yields_collect rfl

-- ── Every token has its turn ────────────────────────────────────────────────────────

/-- The scanner behind the first `k` tokens of a source. -/
def afterTokens (source : String) (k : Nat) : Scanner :=
  ((ofText source).take k).2

theorem take_of_next? {s t : Scanner} {token : Token} (h : s.next? = some (token, t)) (k : Nat) :
    s.take (k + 1) = (token :: (t.take k).1, (t.take k).2) := by
  rw [take, h]

theorem take_of_next?_eq_none {s : Scanner} (h : s.next? = none) (k : Nat) :
    s.take k = ([], s) := by
  cases k with
  | zero => rfl
  | succ k => rw [take, h]

theorem take_succ_of_next? {s t : Scanner} {token : Token} (h : s.next? = some (token, t))
    (k : Nat) : (s.take (k + 1)).2 = (t.take k).2 := by
  rw [take_of_next? h]

/-- Taking tokens twice is taking them once. -/
theorem take_add (s : Scanner) (m n : Nat) :
    s.take (m + n) = ((s.take m).1 ++ ((s.take m).2.take n).1, ((s.take m).2.take n).2) := by
  induction m generalizing s with
  | zero => rw [Nat.zero_add]; rfl
  | succ m ih =>
      cases hnext : s.next? with
      | none =>
          rw [take_of_next?_eq_none hnext, take_of_next?_eq_none hnext,
            take_of_next?_eq_none hnext]
          rfl
      | some read =>
          obtain ⟨token, t⟩ := read
          rw [Nat.add_right_comm, take_of_next? hnext, take_of_next? hnext, ih]
          rfl

/-- Reading a token leads from one place between two pieces to another. -/
theorem Reachable.next {source : String} {s : Scanner} (h : Reachable source s) :
    Reachable source s.next.2 := by
  induction s using next.induct with
  | case1 s hrest =>
      rw [next_of_rest_eq_nil hrest]
      exact h.finish hrest
  | case2 s hrest token t hturn =>
      have hafter : t = s.turn.2 := by rw [hturn]
      rw [next_of_turn_eq_some hrest hturn, hafter]
      exact h.turn hrest
  | case3 s hrest t hturn hlt ih =>
      have hafter : t = s.turn.2 := by rw [hturn]
      rw [next_of_turn_eq_none hrest hturn]
      exact ih (hafter ▸ h.turn hrest)

theorem Reachable.take {source : String} {s : Scanner} (h : Reachable source s) (k : Nat) :
    Reachable source (s.take k).2 := by
  induction k generalizing s with
  | zero => exact h
  | succ k ih =>
      cases hnext : s.next? with
      | none =>
          rw [take_of_next?_eq_none hnext]
          exact h
      | some read =>
          obtain ⟨token, t⟩ := read
          have hafter : s.next.2 = t := by rw [(next_of_next?_eq_some hnext).2]
          rw [take_succ_of_next? hnext]
          exact ih (hafter ▸ h.next)

theorem reachable_afterTokens (source : String) (k : Nat) :
    Reachable source (afterTokens source k) :=
  Reachable.start.take k

/-- A token comes from a turn over a lexeme, or it is the last one and comes from the end. -/
theorem exists_reachable_of_yields {source : String} {s : Scanner} {tokens : List Token}
    (h : Yields s tokens) (hs : Reachable source s) {k : Nat} {token : Token}
    (hk : tokens[k]? = some token) :
    ∃ t, Reachable source t ∧
      ((t.rest ≠ [] ∧ t.turn = (some token, (s.take (k + 1)).2)) ∨
        (t.rest = [] ∧ token = Token.ofLexeme [] t.line ∧ (s.take (k + 1)).2 = t.finish)) := by
  induction h generalizing k with
  | @finish s hopen hrest =>
      cases k with
      | zero =>
          refine ⟨s, hs, Or.inr ⟨hrest, (Option.some.inj hk).symm, ?_⟩⟩
          rw [take_succ_of_next? (next?_of_open hopen), next_of_rest_eq_nil hrest]
          rfl
      | succ k => simp at hk
  | @pass s t tokens hopen hrest hturn _ ih =>
      have ht : t = s.turn.2 := by rw [hturn]
      have hopen' : t.finished = false := by rw [ht, finished_turn, hopen]
      have hnext : s.next? = t.next? := by
        rw [next?_of_open hopen, next?_of_open hopen', next_of_turn_eq_none hrest hturn]
      have hsame : (s.take (k + 1)).2 = (t.take (k + 1)).2 := by
        rw [take_succ_of_next? (next?_of_open hopen'),
          take_succ_of_next? (hnext.trans (next?_of_open hopen'))]
      rw [hsame]
      exact ih (ht ▸ hs.turn hrest) hk
  | @token s t first tokens hopen hrest hturn _ ih =>
      have ht : t = s.turn.2 := by rw [hturn]
      have hnext : s.next? = some (first, t) := by
        rw [next?_of_open hopen, next_of_turn_eq_some hrest hturn]
      rw [take_succ_of_next? hnext]
      cases k with
      | zero =>
          obtain rfl : first = token := Option.some.inj hk
          exact ⟨s, hs, Or.inl ⟨hrest, hturn⟩⟩
      | succ k => exact ih (ht ▸ hs.turn hrest) hk

/-- **Every token but the last comes from a turn over a lexeme.** -/
theorem exists_turn_of_getElem? {source : String} {k : Nat} {token : Token}
    (hk : (tokenize source)[k]? = some token) (hkind : token.kind ≠ .eof) :
    ∃ s, Reachable source s ∧ s.rest ≠ [] ∧
      s.turn = (some token, afterTokens source (k + 1)) := by
  obtain ⟨s, hs, ⟨hrest, hturn⟩ | ⟨-, rfl, -⟩⟩ :=
    exists_reachable_of_yields (yields_tokenize source) .start hk
  · exact ⟨s, hs, hrest, hturn⟩
  · exact absurd rfl hkind

-- ── Every lexeme has its token ──────────────────────────────────────────────────────

theorem afterTokens_succ {source : String} {k : Nat} {token : Token} {t : Scanner}
    (h : (afterTokens source k).next? = some (token, t)) : afterTokens source (k + 1) = t := by
  rw [afterTokens, take_add]
  exact congrArg Prod.snd (take_of_next? h 0)

/-- A scanner that has text ahead has not ended its run. -/
theorem finished_of_reachable {source : String} {s : Scanner} (h : Reachable source s)
    (hrest : s.rest ≠ []) : s.finished = false := by
  induction h with
  | start => rfl
  | @turn s _ hahead ih => rw [finished_turn, ih hahead]
  | finish _ hend => exact absurd hend hrest

/-- From any place between two pieces comes the end of the run, from some token on, and what comes
    next is what comes next behind the tokens before that. -/
theorem exists_yields_of_reachable {source : String} {s : Scanner} (h : Reachable source s)
    (hopen : s.finished = false) :
    ∃ k, Yields s ((tokenize source).drop k) ∧ (afterTokens source k).next? = s.next? := by
  induction h with
  | start => exact ⟨0, yields_tokenize source, rfl⟩
  | @turn s _ hrest ih =>
      have hopen' : s.finished = false := (finished_turn s).symm.trans hopen
      obtain ⟨k, hk, hnext⟩ := ih hopen'
      rw [next?_of_open hopen'] at hnext
      generalize htokens : (tokenize source).drop k = tokens at hk
      cases hk with
      | finish _ hend => exact absurd hend hrest
      | pass _ _ hturn hlater =>
          rw [next_of_turn_eq_none hrest hturn] at hnext
          rw [hturn] at hopen ⊢
          exact ⟨k, htokens ▸ hlater, hnext.trans (next?_of_open hopen).symm⟩
      | token _ _ hturn hlater =>
          rw [next_of_turn_eq_some hrest hturn] at hnext
          rw [hturn]
          refine ⟨k + 1, ?_, by rw [afterTokens_succ hnext]⟩
          rw [← List.drop_drop, htokens]
          exact hlater
  | finish => exact nomatch hopen

/-- **A turn that yields a token yields one of the source**, and stands behind it. -/
theorem exists_getElem?_of_turn {source : String} {s t : Scanner} {token : Token}
    (h : Reachable source s) (hrest : s.rest ≠ []) (hturn : s.turn = (some token, t)) :
    ∃ k, (tokenize source)[k]? = some token ∧ afterTokens source (k + 1) = t := by
  have hopen := finished_of_reachable h hrest
  obtain ⟨k, hk, hnext⟩ := exists_yields_of_reachable h hopen
  rw [next?_of_open hopen, next_of_turn_eq_some hrest hturn] at hnext
  refine ⟨k, ?_, afterTokens_succ hnext⟩
  generalize htokens : (tokenize source).drop k = tokens at hk
  cases hk with
  | finish _ hend => exact absurd hend hrest
  | pass _ _ hother => simp [hother] at hturn
  | token _ _ hother =>
      obtain ⟨rfl, rfl⟩ : _ ∧ _ := by simpa [hother] using hturn
      have hhead := congrArg (·[0]?) htokens
      simpa using hhead

end KindLex.Scanner
