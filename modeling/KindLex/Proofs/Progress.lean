import KindLex.Proofs.Scanner.Scans

/-!
# A run gets ahead

The next token is looked for in a loop.  Each of its turns leaves the scanner further on in the
source than it was, and no move within a turn takes it back.  So the loop ends, and so does the
run, after no more turns than the source has characters.

* **`stop_lt_turn`** and **`stop_le_move`**: what a turn and a move come to.
* **`exists_loops_next`** and **`exists_runs_collect`**: the loop ends, and so does the run.
* **`Loops.eq_next`** and **`Runs.eq_collect`**: after how many turns they do.
* **`tokenize_progress`**: all of it, for every source.
-/

namespace KindLex

open Scanner

namespace Scanner

/-- `Loops s n read`: from `s` on the loop makes `n` turns, and `read` is the token that it has then
    and the scanner behind it. -/
inductive Loops : Scanner → Nat → Token × Scanner → Prop where
  | finish {s} (hrest : s.rest = []) : Loops s 0 (Token.ofLexeme [] s.line, s.finish)
  | token {s t token} (hrest : s.rest ≠ []) (hturn : s.turn = (some token, t)) :
      Loops s 1 (token, t)
  | again {s t n read} (hrest : s.rest ≠ []) (hturn : s.turn = (none, t)) (h : Loops t n read) :
      Loops s (n + 1) read

/-- `Runs s n tokens`: from `s` on a run makes `n` turns, yields the tokens and ends. -/
inductive Runs : Scanner → Nat → List Token → Prop where
  | done {s} (hdone : s.finished = true) : Runs s 0 []
  | next {s t token tokens m n} (hopen : s.finished = false) (hread : Loops s m (token, t))
      (h : Runs t n tokens) : Runs s (m + n) (token :: tokens)

-- ── Turns and moves ─────────────────────────────────────────────────────────────────

/-- Passing more characters leads further. -/
theorem stop_advance_le (s : Scanner) {m n : Nat} (h : m ≤ n) :
    (s.advance m).stop ≤ (s.advance n).stop := by
  obtain ⟨more, hmore⟩ := List.take_prefix_take_left h (l := s.rest)
  show s.stop + Text.byteCount (s.rest.take m) ≤ s.stop + Text.byteCount (s.rest.take n)
  rw [← hmore, Text.byteCount_append]
  omega

/-- **A turn gets ahead.** -/
theorem stop_lt_turn {s : Scanner} (h : s.rest ≠ []) : s.stop < s.turn.2.stop := by
  have hbytes := Text.length_le_byteCount (s.rest.take (Piece.extent s.rest))
  rw [List.length_take, Nat.min_eq_left (Piece.extent_le_length h)] at hbytes
  have hpos := Piece.extent_pos h
  rw [turn_snd]
  show s.stop < s.stop + Text.byteCount (s.rest.take (Piece.extent s.rest))
  omega

theorem length_rest_lt_of_turn {s t : Scanner} {token : Option Token} (hrest : s.rest ≠ [])
    (hturn : s.turn = (token, t)) : t.rest.length < s.rest.length := by
  have hlt := length_rest_turn_lt hrest
  rwa [hturn] at hlt

/-- A leap comes behind one step and goes to the end of the piece. -/
theorem eq_of_leap {text : List Char} {moves : List Move} {distance : Nat}
    (h : moves ++ [.leap distance] <+: Piece.moves text) :
    Piece.isLeapt text = true ∧ moves = [.step] ∧ distance = Piece.extent text := by
  obtain ⟨hleap, rfl⟩ :=
    Piece.eq_extent_of_leap_mem (h.subset (List.mem_append_right moves List.mem_cons_self))
  rw [Piece.moves, if_pos hleap] at h
  refine ⟨hleap, ?_, rfl⟩
  cases moves with
  | nil => simp at h
  | cons first moves =>
      rw [List.cons_append, List.cons_prefix_cons] at h
      obtain ⟨rfl, hlater⟩ := h
      have hlength := hlater.length_le
      rw [List.length_append] at hlength
      obtain rfl : moves = [] := List.length_eq_zero_iff.mp (by simpa using hlength)
      rfl

/-- **No move of a turn goes back.** -/
theorem stop_le_move {s : Scanner} {moves : List Move} {m : Move}
    (h : moves ++ [m] <+: Piece.moves s.rest) :
    (moves.foldl move s.mark).stop ≤ ((moves ++ [m]).foldl move s.mark).stop := by
  cases m with
  | step =>
      rw [List.foldl_append, List.foldl_cons, List.foldl_nil]
      generalize moves.foldl move s.mark = t
      rw [move]
      split
      · exact Nat.le_refl _
      · exact Nat.le_add_right _ _
  | leap distance =>
      obtain ⟨hleap, rfl, rfl⟩ := eq_of_leap h
      have hne : s.rest ≠ [] := by
        intro hnil
        rw [hnil] at hleap
        contradiction
      have hpos := Piece.extent_pos hne
      have hfirst : [Move.step].foldl move s.mark = s.advance 1 := foldl_step_mark s 1
      rw [List.singleton_append, foldl_leap_mark hpos (Piece.not_mem_take_of_isLeapt hleap), hfirst]
      exact stop_advance_le s hpos

/-- A scanner has text ahead as long as it stands in front of the end. -/
theorem rest_eq_nil_iff {source : String} {s : Scanner} (h : Placed source s) :
    s.rest = [] ↔ source.utf8ByteSize ≤ s.stop := by
  have hsize : source.utf8ByteSize = s.stop + Text.byteCount s.rest := by
    rw [h.stop, ← Text.byteCount_append, ← h.text, Text.utf8ByteSize_eq_byteCount]
  have hbytes := Text.length_le_byteCount s.rest
  constructor
  · intro hnil
    rw [hsize, hnil]
    exact Nat.le_refl _
  · intro hle
    exact List.length_eq_zero_iff.mp (by omega)

-- ── The loop and the run ────────────────────────────────────────────────────────────

/-- **The loop ends**, with the next token. -/
theorem exists_loops_next (s : Scanner) : ∃ n, Loops s n s.next := by
  induction s using next.induct with
  | case1 s hrest =>
      rw [next_of_rest_eq_nil hrest]
      exact ⟨0, .finish hrest⟩
  | case2 s hrest token t hturn =>
      rw [next_of_turn_eq_some hrest hturn]
      exact ⟨1, .token hrest hturn⟩
  | case3 s hrest t hturn _ ih =>
      obtain ⟨n, hloops⟩ := ih
      rw [next_of_turn_eq_none hrest hturn]
      exact ⟨n + 1, .again hrest hturn hloops⟩

/-- It has no other end, and each of its turns has passed a character by then. -/
theorem Loops.eq_next {s : Scanner} {n : Nat} {read : Token × Scanner} (h : Loops s n read) :
    read = s.next ∧ n + read.2.rest.length ≤ s.rest.length := by
  induction h with
  | finish hrest => exact ⟨(next_of_rest_eq_nil hrest).symm, Nat.le_of_eq (Nat.zero_add _)⟩
  | @token s t token hrest hturn =>
      have hlt := length_rest_lt_of_turn hrest hturn
      exact ⟨(next_of_turn_eq_some hrest hturn).symm, Nat.add_comm 1 _ ▸ hlt⟩
  | @again s t n read hrest hturn _ ih =>
      have hlt := length_rest_lt_of_turn hrest hturn
      rw [next_of_turn_eq_none hrest hturn]
      exact ⟨ih.1, by omega⟩

/-- **The run ends**, with all tokens. -/
theorem exists_runs_collect (s : Scanner) : ∃ n, Runs s n s.collect.1 := by
  fun_induction collect s with
  | case1 s hnone =>
      refine ⟨0, .done ?_⟩
      by_contra hopen
      rw [next?_of_open (Bool.eq_false_iff.mpr hopen)] at hnone
      contradiction
  | case2 s token t hsome _ tokens last hcollect ih =>
      obtain ⟨hopen, hnext⟩ := next_of_next?_eq_some hsome
      obtain ⟨m, hloops⟩ := exists_loops_next s
      obtain ⟨n, hruns⟩ := ih
      rw [hnext] at hloops
      rw [hcollect] at hruns
      exact ⟨m + n, .next hopen hloops hruns⟩

/-- It has no other end, and each of its turns has passed a character by then. -/
theorem Runs.eq_collect {s : Scanner} {n : Nat} {tokens : List Token} (h : Runs s n tokens) :
    tokens = s.collect.1 ∧ n ≤ s.rest.length := by
  induction h with
  | done hdone =>
      rw [collect_of_next?_eq_none (next?_of_finished hdone)]
      exact ⟨rfl, Nat.zero_le _⟩
  | @next s t token tokens m n hopen hread _ ih =>
      obtain ⟨hnext, hpassed⟩ := hread.eq_next
      have hsome := next?_of_open hopen
      rw [← hnext] at hsome
      rw [collect_of_next? hsome, ih.1]
      exact ⟨rfl, Nat.le_trans (Nat.add_le_add_left ih.2 m) hpassed⟩

end Scanner

-- ── Runs over a source ──────────────────────────────────────────────────────────────

/-- How a run over a source gets ahead. -/
structure Progress (source : String) : Prop where
  /-- At every point of the run the scanner has text ahead until it stands at the end. -/
  ahead  : ∀ s, Visited source s → (s.rest = [] ↔ source.utf8ByteSize ≤ s.stop)
  /-- A turn leaves the scanner further on. -/
  turn   : ∀ s, Reachable source s → s.rest ≠ [] → s.stop < s.turn.2.stop
  /-- No move of a turn takes it back. -/
  move   : ∀ s moves m, Reachable source s → moves ++ [m] <+: Piece.moves s.rest →
    (moves.foldl move s.mark).stop ≤ ((moves ++ [m]).foldl move s.mark).stop
  /-- The loop for the next token ends, with the token, and each of its turns has passed a
      character by then. -/
  loop   : ∀ s, Reachable source s → (∃ n, Loops s n s.next) ∧
    ∀ n read, Loops s n read → read = s.next ∧ n + read.2.rest.length ≤ s.rest.length
  /-- The run ends, with the tokens of the source, after no more turns than the source has
      characters. -/
  run    : (∃ n, Runs (ofText source) n (tokenize source)) ∧
    ∀ n tokens, Runs (ofText source) n tokens → tokens = tokenize source ∧ n ≤ source.length
  /-- There are no more tokens than the source has characters, and one. -/
  length : (tokenize source).length ≤ source.length + 1

/-- **Every run gets ahead and ends.** -/
theorem tokenize_progress (source : String) : Progress source where
  ahead s h := rest_eq_nil_iff (placed_of_visited h)
  turn s _ hrest := stop_lt_turn hrest
  move s moves m _ hmoves := stop_le_move hmoves
  loop s _ := ⟨exists_loops_next s, fun _ _ hloops => hloops.eq_next⟩
  run := by
    rw [← String.length_toList]
    exact ⟨exists_runs_collect (ofText source), fun _ _ hruns => hruns.eq_collect⟩
  length := by
    rw [← String.length_toList]
    exact (scans_tokenize source).length_le

end KindLex
