import KindLex.Proofs.Restart
import Mathlib.Data.ENat.Lattice

/-!
# Answering requests

A caller may ask a scanner for tokens one at a time, in batches or all at once, and look at it in
between.  This file shows that the order and the size of the requests do not matter: what comes out
is the run over the whole text, as far as it was asked for, and what the scanner shows of itself
goes by the last token that came out.  In between, blanks and comments are still ahead: they are
passed only with the token behind them.

* **`step_next`**: what one step takes off the text ahead.
* **`exists_serveAll_eq_take`**: requests in turn come to taking a number of tokens.
* **`serveAll_served`**: what came out of a scanner, and what it shows, after any requests.
-/

namespace KindLex

open Scanner

/-- `Reaches text tokens rest`: the text holds the lexemes of the tokens, each at the end of a gap of
    blanks and comments, and behind the last of them it goes on with `rest`. -/
inductive Reaches : (text : List Char) → (tokens : List Token) → (rest : List Char) → Prop where
  | start (text) : Reaches text [] text
  | token {gap t text tokens rest} (hgap : Gap gap (t.lexeme.toList ++ text))
      (hbegins : Begins (t.lexeme.toList ++ text)) (h : Reaches text tokens rest) :
      Reaches (gap ++ (t.lexeme.toList ++ text)) (t :: tokens) rest

namespace Scanner

/-- How many tokens a request asks for, at most. -/
def Request.size : Request → ℕ∞
  | .next       => 1
  | .upTo count => count
  | .all        => ⊤
  | .look       => 0

/-- What came out of a scanner that started on the source, and the scanner then, when some requests
    have been answered. -/
structure Served (source : String) (requests : List Request) (tokens : List Token) (s : Scanner) :
    Prop where
  /-- The tokens are the first ones of the source. -/
  first : tokens <+: tokenize source
  /-- There are as many as were asked for, or all that there are. -/
  length : (tokens.length : ℕ∞) = min (requests.map Request.size).sum (tokenize source).length
  /-- The scanner shows the line of the last one. -/
  line : s.line = (tokens.getLast?.map Token.line).getD 1
  /-- It is at the end of the text exactly if there is no text, or the last token is out, or the
      last lexeme ends where the text does. -/
  atEnd : s.atEnd = true ↔
    source = "" ∨ (∃ t ∈ tokens, t.kind = .eof) ∨ tokens ≠ [] ∧ Reaches source.toList tokens []
  /-- Once the last token is out, a request gets no token and leaves the scanner as it is. -/
  fused : (∃ t ∈ tokens, t.kind = .eof) → ∀ request, s.serve request = ([], s)

end Scanner

-- ── Places of tokens ────────────────────────────────────────────────────────────────

/-- There is one gap in front of a token. -/
theorem Gap.unique {gap gap' after after' : List Char} (h : Gap gap after) (h' : Gap gap' after')
    (hbegins : Begins after) (hbegins' : Begins after') (htext : gap ++ after = gap' ++ after') :
    after = after' := by
  induction h generalizing gap' with
  | nil after =>
      rw [List.nil_append] at htext
      subst htext
      cases h' with
      | nil => rfl
      | blank hc => exact absurd hc (hbegins.blank _ rfl)
      | comment => exact absurd ⟨_, rfl⟩ hbegins.comment
  | blank hc _ ih =>
      cases h' with
      | nil =>
          rw [List.nil_append] at htext
          exact absurd hc (hbegins'.blank _ (htext ▸ rfl))
      | blank _ h' => exact ih h' hbegins (List.cons.inj htext).2
      | comment =>
          obtain ⟨rfl, -⟩ := List.cons.inj htext
          exact absurd hc (by decide)
  | @comment body gap after hbody hend _ ih =>
      cases h' with
      | nil =>
          rw [List.nil_append] at htext
          exact absurd ⟨_, htext⟩ hbegins'.comment
      | blank hc =>
          obtain ⟨rfl, -⟩ := List.cons.inj htext
          exact absurd hc (by decide)
      | @comment body' gap' _ hbody' hend' h' =>
          have hslashes : body ++ gap ++ after = body' ++ gap' ++ after' :=
            (List.cons.inj (List.cons.inj htext).2).2
          rw [List.append_assoc, List.append_assoc] at hslashes
          obtain ⟨-, hrest⟩ := comment_unique hbody hend hbody' hend' hslashes
          exact ih h' hbegins hrest

/-- **There is one place that tokens reach.** -/
theorem Reaches.unique {text rest rest' : List Char} {tokens : List Token}
    (h : Reaches text tokens rest) (h' : Reaches text tokens rest') : rest = rest' := by
  induction h with
  | start text =>
      cases h'
      rfl
  | @token gap t text tokens rest hgap hbegins _ ih =>
      generalize hsame : gap ++ (t.lexeme.toList ++ text) = whole at h'
      cases h' with
      | token hgap' hbegins' h' =>
          have hlexeme := hgap.unique hgap' hbegins hbegins' hsame
          exact ih (List.append_cancel_left hlexeme ▸ h')

theorem Reaches.eq_of_nil {text rest : List Char} (h : Reaches text [] rest) : text = rest := by
  cases h
  rfl

theorem Reaches.suffix {text rest : List Char} {tokens : List Token} (h : Reaches text tokens rest) :
    rest <:+ text := by
  induction h with
  | start text => exact List.suffix_refl text
  | token _ _ _ ih => exact (ih.trans (List.suffix_append _ _)).trans (List.suffix_append _ _)

namespace Scanner

-- ── What a step does ────────────────────────────────────────────────────────────────

/-- `Step s token t`: a scanner yields the token, is `t` from then on, and has passed a gap and a
    lexeme, or else the end of the text. -/
inductive Step : Scanner → Token → Scanner → Prop where
  | lexeme {s t gap lexeme} (hgap : Gap gap (lexeme ++ t.rest)) (hlexeme : Stands lexeme t.rest)
      (hrest : s.rest = gap ++ (lexeme ++ t.rest)) (hopen : t.finished = false) :
      Step s (Token.ofLexeme lexeme t.line) t
  | finish {s t} (hrest : t.rest = []) (hdone : t.finished = true) :
      Step s (Token.ofLexeme [] t.line) t

/-- A blank or a comment in front makes the gap longer. -/
theorem Step.of_turn {s t u : Scanner} {token : Token} (h : Step t token u) (hrest : s.rest ≠ [])
    (hturn : s.turn = (none, t)) : Step s token u := by
  cases h with
  | @lexeme _ gap lexeme hgap hlexeme hsplit hopen =>
      rcases rest_of_turn_eq_none hrest hturn with ⟨c, hc, hcons⟩ | ⟨body, hbody, hend, hcons⟩
      · exact .lexeme (.blank hc hgap) hlexeme (by rw [hcons, hsplit]; rfl) hopen
      · rw [hsplit] at hend hcons
        refine .lexeme (.comment hbody hend hgap) hlexeme ?_ hopen
        rw [hcons, List.cons_append, List.cons_append, List.append_assoc]
  | finish hrest hdone => exact .finish hrest hdone

/-- **What one step takes off the text ahead.** -/
theorem step_next {s : Scanner} (hopen : s.finished = false) : Step s s.next.1 s.next.2 := by
  induction s using next.induct with
  | case1 s hrest =>
      rw [next_of_rest_eq_nil hrest]
      exact @Step.finish s s.finish hrest rfl
  | case2 s hrest token t hturn =>
      obtain ⟨lexeme, hcut, hsplit, rfl⟩ := cut_of_turn_eq_some hrest hturn
      have hbegins := begins_iff.mpr ⟨hrest, ofText_of_turn_eq_some hturn⟩
      have hopen' := (finished_turn s).trans hopen
      rw [hsplit] at hbegins
      rw [hturn] at hopen'
      rw [next_of_turn_eq_some hrest hturn]
      exact .lexeme (.nil _) ⟨hbegins, hcut⟩ hsplit hopen'
  | case3 s hrest t hturn hlt ih =>
      have hopen' := (finished_turn s).trans hopen
      rw [hturn] at hopen'
      rw [next_of_turn_eq_none hrest hturn]
      exact (ih hopen').of_turn hrest hturn

/-- What a scanner that yields a token does. -/
theorem step_of_next? {s t : Scanner} {token : Token} (h : s.next? = some (token, t)) :
    Step s token t := by
  obtain ⟨hopen, hnext⟩ := next_of_next?_eq_some h
  have hstep := step_next hopen
  rwa [hnext] at hstep

section Steps

variable {s t : Scanner} {token : Token} (h : Step s token t)
include h

/-- A step leads to the line of its token. -/
theorem Step.line_eq : token.line = t.line := by
  cases h <;> rfl

/-- The token that marks the end comes out where the text and the run end. -/
theorem Step.of_eof (hkind : token.kind = .eof) : t.rest = [] ∧ t.finished = true := by
  cases h with
  | lexeme _ hlexeme => exact absurd hkind (hlexeme.cut.spells.kind_ne_eof hlexeme.cut.ne_nil)
  | finish hrest hdone => exact ⟨hrest, hdone⟩

/-- Any other token comes out where its lexeme ends. -/
theorem Step.reaches (hkind : token.kind ≠ .eof) {tokens : List Token} {rest : List Char}
    (hlater : Reaches t.rest tokens rest) : Reaches s.rest (token :: tokens) rest := by
  cases h with
  | @lexeme _ gap lexeme hgap hlexeme hsplit =>
      have hbegins := hlexeme.begins
      rw [← Token.toList_lexeme_ofLexeme lexeme t.line] at hgap hbegins
      have htoken := Reaches.token hgap hbegins hlater
      rw [Token.toList_lexeme_ofLexeme, ← hsplit] at htoken
      exact htoken
  | finish => exact absurd rfl hkind

end Steps

-- ── What any number of steps does ───────────────────────────────────────────────────

/-- Taking some tokens takes them off the front of the run. -/
theorem take_fst (s : Scanner) (n : Nat) : (s.take n).1 = s.collect.1.take n := by
  induction n generalizing s with
  | zero => rfl
  | succ n ih =>
      cases hnext : s.next? with
      | none => rw [take_of_next?_eq_none hnext, collect_of_next?_eq_none hnext, List.take_nil]
      | some read =>
          obtain ⟨token, t⟩ := read
          rw [take_of_next? hnext, collect_of_next? hnext, List.take_succ_cons, ih]

/-- Taking all tokens is a whole run. -/
theorem take_eq_collect {s : Scanner} {n : Nat} (h : s.collect.1.length ≤ n) :
    s.take n = s.collect := by
  induction n generalizing s with
  | zero =>
      cases hnext : s.next? with
      | none => exact (collect_of_next?_eq_none hnext).symm
      | some read => simp [collect_of_next? hnext] at h
  | succ n ih =>
      cases hnext : s.next? with
      | none => rw [take_of_next?_eq_none hnext, collect_of_next?_eq_none hnext]
      | some read =>
          obtain ⟨token, t⟩ := read
          rw [collect_of_next? hnext, List.length_cons] at h
          rw [take_of_next? hnext, collect_of_next? hnext, ih (Nat.le_of_succ_le_succ h)]

/-- A scanner shows the line of the last token that came out of it. -/
theorem line_take (s : Scanner) (n : Nat) :
    (s.take n).2.line = ((s.take n).1.getLast?.map Token.line).getD s.line := by
  induction n generalizing s with
  | zero => rfl
  | succ n ih =>
      cases hnext : s.next? with
      | none =>
          rw [take_of_next?_eq_none hnext]
          rfl
      | some read =>
          obtain ⟨token, t⟩ := read
          rw [take_of_next? hnext, ih t, ← (step_of_next? hnext).line_eq]
          dsimp only
          rw [List.getLast?_cons]
          cases (t.take n).1.getLast? <;> rfl

/-- When the last token is out, the text and the run are at their end. -/
theorem rest_take_of_eof {s : Scanner} {n : Nat} (h : ∃ t ∈ (s.take n).1, t.kind = .eof) :
    (s.take n).2.rest = [] ∧ (s.take n).2.finished = true := by
  induction n generalizing s with
  | zero =>
      obtain ⟨t, ht, -⟩ := h
      exact nomatch ht
  | succ n ih =>
      obtain ⟨u, hu, hkind⟩ := h
      cases hnext : s.next? with
      | none =>
          rw [take_of_next?_eq_none hnext] at hu
          exact nomatch hu
      | some read =>
          obtain ⟨token, t⟩ := read
          rw [take_of_next? hnext] at hu ⊢
          rcases List.mem_cons.mp hu with rfl | hu
          · obtain ⟨hrest, hdone⟩ := (step_of_next? hnext).of_eof hkind
            rw [take_of_next?_eq_none (next?_of_finished hdone)]
            exact ⟨hrest, hdone⟩
          · exact ih ⟨u, hu, hkind⟩

/-- Until then a scanner stands where the lexeme of the last token ends. -/
theorem reaches_take {s : Scanner} {n : Nat} (h : ∀ t ∈ (s.take n).1, t.kind ≠ .eof) :
    Reaches s.rest (s.take n).1 (s.take n).2.rest := by
  induction n generalizing s with
  | zero => exact .start s.rest
  | succ n ih =>
      cases hnext : s.next? with
      | none =>
          rw [take_of_next?_eq_none hnext]
          exact .start s.rest
      | some read =>
          obtain ⟨token, t⟩ := read
          rw [take_of_next? hnext] at h ⊢
          exact (step_of_next? hnext).reaches (h token List.mem_cons_self)
            (ih fun u hu => h u (List.mem_cons_of_mem _ hu))

-- ── Requests ────────────────────────────────────────────────────────────────────────

/-- A number of tokens is what was asked for, of so many that there are. -/
def Meets (n : Nat) (size : ℕ∞) (available : Nat) : Prop :=
  (n : ℕ∞) = size ∨ available ≤ n ∧ (available : ℕ∞) ≤ size

theorem Meets.min_eq {n available : Nat} {size : ℕ∞} (h : Meets n size available) :
    ((min n available : Nat) : ℕ∞) = min size available := by
  rcases h with rfl | ⟨hn, hsize⟩
  · exact Nat.mono_cast.map_min
  · rw [Nat.min_eq_right hn, min_eq_right hsize]

/-- Requests in turn ask for the sum of what they ask for. -/
theorem Meets.add {m n available : Nat} {size later : ℕ∞} (h : Meets m size available)
    (h' : Meets n later (available - m)) : Meets (m + n) (size + later) available := by
  rcases h with rfl | ⟨hm, hsize⟩
  · rcases h' with rfl | ⟨hn, hlater⟩
    · exact Or.inl (Nat.cast_add m n)
    · refine Or.inr ⟨by omega, ?_⟩
      have hsum : (available : ℕ∞) ≤ ((m + (available - m) : Nat) : ℕ∞) :=
        Nat.cast_le.mpr (by omega)
      rw [Nat.cast_add] at hsum
      exact hsum.trans (add_le_add_right hlater _)
  · exact Or.inr ⟨Nat.le_add_right_of_le hm, le_add_right hsize⟩

/-- A request comes to taking a number of tokens. -/
theorem exists_serve_eq_take (s : Scanner) (request : Request) :
    ∃ n, s.serve request = s.take n ∧ Meets n request.size s.collect.1.length := by
  cases request with
  | next => exact ⟨1, rfl, Or.inl rfl⟩
  | upTo count => exact ⟨count, rfl, Or.inl rfl⟩
  | all => exact ⟨_, (take_eq_collect (Nat.le_refl _)).symm, Or.inr ⟨Nat.le_refl _, le_top⟩⟩
  | look => exact ⟨0, rfl, Or.inl rfl⟩

/-- **Requests in turn come to taking a number of tokens.** -/
theorem exists_serveAll_eq_take (s : Scanner) (requests : List Request) :
    ∃ n, s.serveAll requests = s.take n ∧
      Meets n (requests.map Request.size).sum s.collect.1.length := by
  induction requests generalizing s with
  | nil => exact ⟨0, rfl, Or.inl rfl⟩
  | cons request requests ih =>
      obtain ⟨m, hserve, hm⟩ := exists_serve_eq_take s request
      obtain ⟨n, hlater, hn⟩ := ih (s.take m).2
      rw [collect_take, List.length_drop] at hn
      -- the later requests see only what the first one has left
      refine ⟨m + n, ?_, hm.add hn⟩
      rw [serveAll, hserve, take_add]
      dsimp only
      rw [hlater]

theorem serve_of_finished {s : Scanner} (h : s.finished = true) (request : Request) :
    s.serve request = ([], s) := by
  obtain ⟨n, hserve, -⟩ := exists_serve_eq_take s request
  rw [hserve, take_of_next?_eq_none (next?_of_finished h)]

/-- Where the scanner shows the end of the text. -/
theorem atEnd_take_iff (source : String) (n : Nat) :
    ((ofText source).take n).2.atEnd = true ↔
      source = "" ∨ (∃ t ∈ ((ofText source).take n).1, t.kind = .eof) ∨
        ((ofText source).take n).1 ≠ [] ∧
          Reaches source.toList ((ofText source).take n).1 [] := by
  rw [atEnd, List.isEmpty_iff]
  by_cases heof : ∃ t ∈ ((ofText source).take n).1, t.kind = .eof
  · exact iff_of_true (rest_take_of_eof heof).1 (Or.inr (Or.inl heof))
  · have hreaches : Reaches source.toList ((ofText source).take n).1
        ((ofText source).take n).2.rest :=
      reaches_take fun t ht hkind => heof ⟨t, ht, hkind⟩
    constructor
    · intro hrest
      rw [hrest] at hreaches
      by_cases htokens : ((ofText source).take n).1 = []
      · rw [htokens] at hreaches
        exact Or.inl (String.toList_eq_nil_iff.mp hreaches.eq_of_nil)
      · exact Or.inr (Or.inr ⟨htokens, hreaches⟩)
    · rintro (rfl | hsome | ⟨-, hend⟩)
      · exact List.suffix_nil.mp hreaches.suffix
      · exact absurd hsome heof
      · exact hreaches.unique hend

/-- **What came out of a scanner, and what it shows**, after any requests. -/
theorem serveAll_served (source : String) (requests : List Request) :
    Served source requests ((ofText source).serveAll requests).1
      ((ofText source).serveAll requests).2 := by
  obtain ⟨n, hserve, hn⟩ := exists_serveAll_eq_take (ofText source) requests
  have hfirst : ((ofText source).take n).1 = (tokenize source).take n := take_fst (ofText source) n
  rw [hserve]
  constructor
  · rw [hfirst]
    exact List.take_prefix n _
  · rw [hfirst, List.length_take]
    exact hn.min_eq
  · exact line_take (ofText source) n
  · exact atEnd_take_iff source n
  · intro heof
    exact serve_of_finished (rest_take_of_eof heof).2

/-- The text is at its end before the last token is out, unless blanks are still ahead. -/
example : ((ofText "a b").serveAll [.next, .look, .upTo 1]).2.atEnd = true ∧
    ((ofText "a b ").serveAll [.next, .look, .upTo 1]).2.atEnd = false := by
  decide +kernel

end Scanner

end KindLex
