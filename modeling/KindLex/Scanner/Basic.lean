import KindLex.Lexeme.Reading
import KindLex.Scanner.Piece
import KindLex.Text.Bytes
import KindLex.Token

/-!
# The scanner

A scanner is a place in a text.  Each turn passes one piece of the text, and the next token comes
from the first turn over a lexeme; the end of the text yields the token that ends every run, and
after it the scanner yields nothing.

* **`remaining_next_lt`**: a step leaves less to be done, so every run ends.
-/

namespace KindLex

/-- The token that a lexeme makes when it ends on a given line. -/
def Token.ofLexeme (lexeme : List Char) (line : Nat) : Token :=
  let reading := Reading.ofLexeme lexeme
  ⟨reading.kind, String.ofList lexeme, reading.literal, line⟩

@[simp]
theorem Token.toList_lexeme_ofLexeme (lexeme : List Char) (line : Nat) :
    (ofLexeme lexeme line).lexeme.toList = lexeme :=
  String.toList_ofList

/-- A place in a text: the text from the start of the current piece on, what of it is still ahead,
    the bytes of the whole text at which the piece starts and at which the scanner stands, the line
    reached, and whether the last token is out. -/
structure Scanner where
  piece    : List Char
  rest     : List Char
  start    : Nat
  stop     : Nat
  line     : Nat
  finished : Bool
  deriving DecidableEq

namespace Scanner

/-- The scanner at the start of a text. -/
def ofText (source : String) : Scanner :=
  ⟨source.toList, source.toList, 0, 0, 1, false⟩

/-- Whether the whole text is behind the scanner, which may be so before the last token is out. -/
def atEnd (s : Scanner) : Bool :=
  s.rest.isEmpty

/-- The text of the current piece up to where the scanner stands. -/
def lexeme (s : Scanner) : List Char :=
  Text.takeBytes (s.stop - s.start) s.piece

/-- Lets a piece begin where the scanner stands. -/
def mark (s : Scanner) : Scanner :=
  { s with piece := s.rest, start := s.stop }

/-- One move.  There is no step at the end of the text. -/
def move (s : Scanner) : Move → Scanner
  | .step =>
      match s.rest with
      | []        => s
      | c :: rest =>
          { s with
            rest := rest
            stop := s.stop + c.utf8Size
            line := if c = '\n' then s.line + 1 else s.line }
  | .leap distance =>
      { s with
        rest := s.piece.drop distance
        stop := s.start + Text.byteCount (s.piece.take distance) }

/-- Passes the piece ahead. -/
def pass (s : Scanner) : Scanner :=
  (Piece.moves s.rest).foldl move s.mark

/-- Passes the piece ahead and yields a token if it is a lexeme. -/
def turn (s : Scanner) : Option Token × Scanner :=
  match Piece.ofText s.rest with
  | .blank | .comment => (none, s.pass)
  | .lexeme           => (some (Token.ofLexeme s.pass.lexeme s.pass.line), s.pass)

/-- Notes that the last token is out. -/
def finish (s : Scanner) : Scanner :=
  { s.mark with finished := true }

-- ── A turn gets ahead ───────────────────────────────────────────────────────────────

/-- Steps count every line feed that they pass. -/
theorem foldl_step (n : Nat) (s : Scanner) :
    (List.replicate n Move.step).foldl move s =
      { s with
        rest := s.rest.drop n
        stop := s.stop + Text.byteCount (s.rest.take n)
        line := s.line + (s.rest.take n).count '\n' } := by
  induction n generalizing s with
  | zero => rfl
  | succ n ih =>
      rw [List.replicate_succ, List.foldl_cons, ih]
      cases hrest : s.rest with
      | nil => simp [move, hrest]
      | cons c rest =>
          by_cases hc : c = '\n'
          · simp [move, hrest, hc, Nat.add_assoc, Nat.add_comm 1]
          · simp [move, hrest, hc, Nat.add_assoc]

/-- A turn leaves behind the piece that was ahead. -/
theorem rest_pass (s : Scanner) : s.pass.rest = s.rest.drop (Piece.extent s.rest) := by
  rw [pass, Piece.moves]
  split
  · cases hrest : s.rest <;> simp [move, mark, hrest]
  · exact congrArg rest (foldl_step _ _)

theorem rest_turn (s : Scanner) : s.turn.2.rest = s.rest.drop (Piece.extent s.rest) := by
  rw [← rest_pass]
  rw [turn]
  split <;> rfl

/-- A turn leaves less text ahead. -/
theorem length_rest_turn_lt {s : Scanner} (h : s.rest ≠ []) :
    s.turn.2.rest.length < s.rest.length := by
  have hpos := Piece.extent_pos h
  have hlength := List.length_pos_iff.mpr h
  rw [rest_turn, List.length_drop]
  omega

-- ── Tokens ──────────────────────────────────────────────────────────────────────────

/-- The next token, and the scanner behind it. -/
def next (s : Scanner) : Token × Scanner :=
  if hrest : s.rest = [] then (Token.ofLexeme [] s.line, s.finish)
  else
    match hturn : s.turn with
    | (some token, t) => (token, t)
    | (none, t)       =>
        have : t.rest.length < s.rest.length := by
          have hlt := length_rest_turn_lt hrest
          rwa [hturn] at hlt
        next t
termination_by s.rest.length

/-- The next token, if there is one. -/
def next? (s : Scanner) : Option (Token × Scanner) :=
  if s.finished then none else some s.next

-- ── Every run ends ──────────────────────────────────────────────────────────────────

/-- A bound on the number of tokens ahead. -/
def remaining (s : Scanner) : Nat :=
  if s.finished then 0 else s.rest.length + 1

theorem remaining_le (s : Scanner) : s.remaining ≤ s.rest.length + 1 := by
  rw [remaining]
  split <;> omega

/-- At the end of the text the run ends. -/
theorem next_of_rest_eq_nil {s : Scanner} (h : s.rest = []) :
    s.next = (Token.ofLexeme [] s.line, s.finish) := by
  rw [next, dif_pos h]

/-- A turn over a lexeme yields the next token. -/
theorem next_of_turn_eq_some {s t : Scanner} {token : Token} (h : s.rest ≠ [])
    (hturn : s.turn = (some token, t)) : s.next = (token, t) := by
  rw [next, dif_neg h]
  split
  · rename_i htoken
    rw [htoken] at hturn
    obtain ⟨rfl, rfl⟩ : _ ∧ _ := by simpa using hturn
    rfl
  · rename_i hnone
    rw [hnone] at hturn
    exact absurd (congrArg Prod.fst hturn) (by simp)

/-- A turn over a blank or a comment leaves the next token to the turns after it. -/
theorem next_of_turn_eq_none {s t : Scanner} (h : s.rest ≠ []) (hturn : s.turn = (none, t)) :
    s.next = t.next := by
  rw [next, dif_neg h]
  split
  · rename_i htoken
    rw [htoken] at hturn
    exact absurd (congrArg Prod.fst hturn) (by simp)
  · rename_i hnone
    rw [hnone] at hturn
    exact congrArg next (congrArg Prod.snd hturn)

/-- Reading a token leaves less text, or ends the run. -/
theorem remaining_next_le (s : Scanner) : s.next.2.remaining ≤ s.rest.length := by
  induction s using next.induct with
  | case1 s hrest =>
      rw [next_of_rest_eq_nil hrest]
      exact Nat.zero_le _
  | case2 s hrest token t hturn =>
      have hlt := length_rest_turn_lt hrest
      rw [hturn] at hlt
      rw [next_of_turn_eq_some hrest hturn]
      exact Nat.le_trans (remaining_le t) hlt
  | case3 s hrest t hturn hlt ih =>
      rw [next_of_turn_eq_none hrest hturn]
      exact Nat.le_trans ih (Nat.le_of_lt hlt)

/-- A step leaves less to be done. -/
theorem remaining_next_lt {s : Scanner} (h : s.finished = false) :
    s.next.2.remaining < s.remaining := by
  have hread := remaining_next_le s
  have hall : s.remaining = s.rest.length + 1 := by simp [remaining, h]
  omega

/-- A scanner yields a token only while the last one is not out. -/
theorem next_of_next?_eq_some {s t : Scanner} {token : Token} (h : s.next? = some (token, t)) :
    s.finished = false ∧ s.next = (token, t) := by
  cases hfinished : s.finished with
  | true =>
      rw [next?, hfinished] at h
      contradiction
  | false =>
      rw [next?, hfinished] at h
      exact ⟨rfl, Option.some.inj h⟩

/-- A step that yields a token leaves less to be done. -/
theorem remaining_lt_of_next?_eq_some {s t : Scanner} {token : Token}
    (h : s.next? = some (token, t)) : t.remaining < s.remaining := by
  obtain ⟨hopen, hnext⟩ := next_of_next?_eq_some h
  have hlt := remaining_next_lt hopen
  rwa [hnext] at hlt

end Scanner

end KindLex
