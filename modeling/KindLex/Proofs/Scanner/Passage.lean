import KindLex.Proofs.Lexeme.Cut
import KindLex.Proofs.Lexeme.Sorts
import KindLex.Scanner.Basic

/-!
# What passing a piece comes to

A scanner counts line feeds while it steps and not while it leaps.  `Scanner.advance n` is the
passage that an observer would want: over `n` characters, with every line feed among them counted.

* **`not_mem_take_of_isLeapt`**: what is leapt over (a comment, a number, a word, the farewell)
  holds no line feed.
* **`pass_eq_advance`**: hence a turn passes its piece as `advance` does, whichever way it goes.
* **`exists_foldl_eq_advance`**: and so does every part of a turn.
-/

namespace KindLex

-- ── A leap misses no line feed ──────────────────────────────────────────────────────

/-- A lexeme that starts as a number or as a word does holds no line feed. -/
theorem Lexeme.Cut.not_mem_newline {lexeme rest : List Char} (h : Lexeme.Cut lexeme rest) {c : Char}
    (hhead : lexeme.head? = some c) (hc : c.isDigit = true ∨ Lexeme.isWordStart c = true) :
    '\n' ∉ lexeme := by
  cases h with
  | string | openString | character | openCharacter | apostrophe =>
      obtain rfl := Option.some.inj hhead
      rcases hc with hc | hc <;> exact absurd hc (by decide)
  | farewell => decide
  | integer hne hdigits =>
      intro hmem
      exact absurd (hdigits _ hmem) (by decide)
  | real hne hwhole hne' hfraction =>
      intro hmem
      rcases List.mem_append.mp hmem with hmem | hmem
      · exact absurd (hwhole _ hmem) (by decide)
      · rcases List.mem_cons.mp hmem with hmem | hmem
        · exact absurd hmem (by decide)
        · exact absurd (hfraction _ hmem) (by decide)
  | word hstart htail =>
      intro hmem
      rcases List.mem_cons.mp hmem with rfl | hmem
      · exact absurd hstart (by decide)
      · exact absurd (htail _ hmem) (by decide)
  | @mark sign =>
      obtain ⟨-, -, hdigit, hstart⟩ := Lexeme.spelling_head sign c hhead
      simp [hdigit, hstart] at hc
  | stray _ _ hdigit hstart =>
      obtain rfl := Option.some.inj hhead
      simp [hdigit, hstart] at hc

/-- **What is leapt over holds no line feed.** -/
theorem Piece.not_mem_take_of_isLeapt {text : List Char} (h : Piece.isLeapt text = true) :
    '\n' ∉ text.take (Piece.extent text) := by
  rw [Piece.isLeapt] at h
  rw [Piece.extent]
  cases hpiece : Piece.ofText text with
  | blank =>
      rw [hpiece] at h
      contradiction
  | comment =>
      simp only [Trivia.commentExtent, Lexeme.take_run]
      intro hmem
      exact absurd (List.mem_takeWhile_imp hmem) (by decide)
  | lexeme =>
      rw [hpiece] at h
      cases text with
      | nil => contradiction
      | cons c rest =>
          have hpos := Lexeme.extent_pos (List.cons_ne_nil c rest)
          refine (Lexeme.cut_extent (List.cons_ne_nil c rest)).not_mem_newline (c := c) ?_
            (by simpa using h)
          rw [List.head?_take, if_neg (by omega)]
          rfl

/-- The one leap of a turn goes to the end of a piece that is leapt over. -/
theorem Piece.eq_extent_of_leap_mem {text : List Char} {n : Nat}
    (h : Move.leap n ∈ Piece.moves text) : Piece.isLeapt text = true ∧ n = Piece.extent text := by
  by_cases hleap : Piece.isLeapt text = true
  · rw [Piece.moves, if_pos hleap] at h
    exact ⟨hleap, by simpa using h⟩
  · rw [Piece.moves, if_neg hleap] at h
    exact absurd (List.eq_of_mem_replicate h) (by simp)

-- ── No piece goes beyond the text ───────────────────────────────────────────────────

/-- No piece goes beyond the text that it starts. -/
theorem Piece.extent_le_length {text : List Char} (h : text ≠ []) :
    Piece.extent text ≤ text.length := by
  rw [Piece.extent]
  split
  · exact List.length_pos_iff.mpr h
  · exact Lexeme.run_le_length _ _
  · exact Lexeme.extent_le_length _

namespace Scanner

-- ── Passing with every line feed counted ────────────────────────────────────────────

/-- Passes `n` characters as one piece, with every line feed among them counted. -/
def advance (s : Scanner) (n : Nat) : Scanner :=
  { s with
    piece := s.rest
    rest  := s.rest.drop n
    start := s.stop
    stop  := s.stop + Text.byteCount (s.rest.take n)
    line  := s.line + (s.rest.take n).count '\n' }

theorem foldl_step_mark (s : Scanner) (n : Nat) :
    (List.replicate n Move.step).foldl move s.mark = s.advance n :=
  foldl_step n s.mark

/-- A leap over text without a line feed passes as steps would. -/
theorem foldl_leap_mark {s : Scanner} {n : Nat} (hpos : 0 < n) (hline : '\n' ∉ s.rest.take n) :
    [Move.step, Move.leap n].foldl move s.mark = s.advance n := by
  have hcount : (s.rest.take n).count '\n' = 0 := List.count_eq_zero_of_not_mem hline
  cases hrest : s.rest with
  | nil => simp [move, mark, advance, hrest]
  | cons c rest =>
      have hc : c ≠ '\n' := by
        rintro rfl
        obtain ⟨m, rfl⟩ := Nat.exists_eq_succ_of_ne_zero (Nat.ne_of_gt hpos)
        exact hline (by simp [hrest])
      rw [hrest] at hcount
      simp [move, mark, advance, hrest, hc, hcount]

/-- **A turn passes its piece as `advance` does.** -/
theorem pass_eq_advance (s : Scanner) : s.pass = s.advance (Piece.extent s.rest) := by
  rw [pass, Piece.moves]
  by_cases hleap : Piece.isLeapt s.rest = true
  · rw [if_pos hleap]
    have hne : s.rest ≠ [] := by
      intro h
      rw [h] at hleap
      contradiction
    exact foldl_leap_mark (Piece.extent_pos hne) (Piece.not_mem_take_of_isLeapt hleap)
  · rw [if_neg hleap]
    exact foldl_step_mark s _

/-- **So does every part of a turn.** -/
theorem exists_foldl_eq_advance {s : Scanner} {moves : List Move}
    (h : moves <+: Piece.moves s.rest) : ∃ n, moves.foldl move s.mark = s.advance n := by
  by_cases hfull : moves = Piece.moves s.rest
  · exact ⟨Piece.extent s.rest, hfull ▸ pass_eq_advance s⟩
  · -- before its last move a turn has made steps only
    obtain ⟨n, rfl⟩ : ∃ n, moves = List.replicate n Move.step := by
      rw [Piece.moves] at h hfull
      by_cases hleap : Piece.isLeapt s.rest = true
      · rw [if_pos hleap] at h hfull
        rcases List.prefix_cons_iff.mp h with rfl | ⟨later, rfl, hlater⟩
        · exact ⟨0, rfl⟩
        · rcases List.prefix_cons_iff.mp hlater with rfl | ⟨last, rfl, hlast⟩
          · exact ⟨1, rfl⟩
          · obtain rfl := List.prefix_nil.mp hlast
            exact absurd rfl hfull
      · rw [if_neg hleap] at h
        exact ⟨moves.length, List.eq_replicate_of_mem fun m hm =>
          List.eq_of_mem_replicate (h.subset hm)⟩
    exact ⟨n, foldl_step_mark s n⟩

/-- Between its start and its end a piece is the text that was passed. -/
theorem lexeme_advance (s : Scanner) (n : Nat) : (s.advance n).lexeme = s.rest.take n := by
  have hsize : (s.advance n).stop - (s.advance n).start = Text.byteCount (s.rest.take n) :=
    Nat.add_sub_cancel_left _ _
  have hpiece : (s.advance n).piece = s.rest.take n ++ s.rest.drop n :=
    (List.take_append_drop n s.rest).symm
  rw [lexeme, hsize, hpiece, Text.takeBytes_byteCount_append]

end Scanner

end KindLex
