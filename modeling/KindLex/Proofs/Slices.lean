import KindLex.Proofs.Numbers
import KindLex.Proofs.Text.Slice

/-!
# The slices that a scanner takes

A scanner knows its places in bytes, and slices its source between them: the text ahead, the text
from the start of the piece on, the piece so far, and what is between the quotes of a string.  A
slice that is asked for at the wrong places does not exist.  This file shows that there is none such
at any point of a run, those between two moves of a turn among them.

* **`exists_framed_of_visited`**: the source parts at the start of the piece and where the scanner
  stands, and both are as many bytes on as the scanner says.
* **`tokenize_slices`**: hence every slice is there, and it is the text that the scanner goes by.
-/

namespace KindLex

open Lexeme Scanner

namespace Scanner

/-- `Framed source s before`: the current piece starts behind `before`, and the scanner stands
    behind the lexeme so far. -/
structure Framed (source : String) (s : Scanner) (before : List Char) : Prop where
  text  : source.toList = before ++ s.piece
  piece : s.piece = s.lexeme ++ s.rest
  start : s.start = Text.byteCount before
  stop  : s.stop = Text.byteCount (before ++ s.lexeme)

/-- A piece that is passed in part starts where the scanner stood before. -/
theorem framed_advance {source : String} {s : Scanner} (h : Placed source s) (n : Nat) :
    Framed source (s.advance n) (s.behind source) where
  text  := h.text
  piece := by
    rw [lexeme_advance]
    exact (List.take_append_drop n s.rest).symm
  start := h.stop
  stop  := by
    rw [lexeme_advance, Text.byteCount_append, ← h.stop]
    rfl

/-- A piece that begins where the scanner stands is ahead of it. -/
theorem framed_of_start_eq_stop {source : String} {s : Scanner} (h : Placed source s)
    (hpiece : s.piece = s.rest) (hstart : s.start = s.stop) :
    Framed source s (s.behind source) := by
  have hlexeme : s.lexeme = [] := by
    rw [lexeme, hstart, Nat.sub_self, Text.takeBytes_zero]
  refine ⟨hpiece ▸ h.text, ?_, hstart.trans h.stop, ?_⟩
  · rw [hlexeme, hpiece]
    rfl
  · rw [hlexeme, List.append_nil]
    exact h.stop

/-- **At every point of a run the source parts where the scanner says.** -/
theorem exists_framed_of_visited {source : String} {s : Scanner} (h : Visited source s) :
    ∃ before, Framed source s before := by
  cases h with
  | between h =>
      have hplaced := placed_of_reachable h
      cases h with
      | start => exact ⟨_, framed_of_start_eq_stop hplaced rfl rfl⟩
      | turn h =>
          rw [turn_snd]
          exact ⟨_, framed_advance (placed_of_reachable h) _⟩
      | finish => exact ⟨_, framed_of_start_eq_stop hplaced rfl rfl⟩
  | within h hmoves =>
      obtain ⟨n, hn⟩ := exists_foldl_eq_advance hmoves
      rw [hn]
      exact ⟨_, framed_advance (placed_of_reachable h) n⟩

theorem framed_turn {source : String} {s : Scanner} (h : Reachable source s) :
    Framed source s.turn.2 (s.behind source) := by
  rw [turn_snd]
  exact framed_advance (placed_of_reachable h) _

/-- Behind a turn the lexeme is what the turn took off the text ahead. -/
theorem lexeme_of_turn {s : Scanner} {part : List Char} (hsplit : s.rest = part ++ s.turn.2.rest) :
    s.turn.2.lexeme = part := by
  rw [rest_eq_append s] at hsplit
  rw [turn_snd, lexeme_advance]
  exact List.append_cancel_right hsplit

section Framed

variable {source : String} {s : Scanner} {before : List Char} (h : Framed source s before)
include h

theorem Framed.eq_append : source.toList = before ++ (s.lexeme ++ s.rest) := by
  rw [h.text, h.piece]

theorem Framed.utf8ByteSize_eq : source.utf8ByteSize = Text.byteCount (before ++ s.piece) := by
  rw [← h.text, Text.utf8ByteSize_eq_byteCount]

theorem Framed.slice?_remainder :
    Text.slice? source s.stop source.utf8ByteSize = some (String.ofList s.rest) := by
  rw [h.utf8ByteSize_eq, h.stop, h.piece, ← List.append_assoc]
  refine @Text.slice?_of_append _ _ _ [] ?_
  rw [h.eq_append, List.append_nil, List.append_assoc]

theorem Framed.slice?_fromStart :
    Text.slice? source s.start source.utf8ByteSize = some (String.ofList s.piece) := by
  rw [h.utf8ByteSize_eq, h.start]
  refine @Text.slice?_of_append _ _ _ [] ?_
  rw [h.text, List.append_nil]

theorem Framed.slice?_lexeme :
    Text.slice? source s.start s.stop = some (String.ofList s.lexeme) := by
  rw [h.start, h.stop]
  exact Text.slice?_of_append h.eq_append

/-- What is between the two ends of the lexeme is so many bytes on from its start, and so many
    before its end. -/
theorem Framed.slice?_inner {first part last : List Char}
    (hlexeme : s.lexeme = first ++ (part ++ last)) :
    Text.slice? source (s.start + Text.byteCount first) (s.stop - Text.byteCount last) =
      some (String.ofList part) := by
  have htext := h.eq_append
  rw [hlexeme] at htext
  have hstop : s.stop - Text.byteCount last = Text.byteCount (before ++ first ++ part) := by
    rw [h.stop, hlexeme]
    simp only [Text.byteCount_append]
    omega
  rw [h.start, hstop, ← Text.byteCount_append]
  refine @Text.slice?_of_append _ _ _ (last ++ s.rest) ?_
  rw [htext]
  simp only [List.append_assoc]

end Framed

-- ── Lines, strings and numbers ──────────────────────────────────────────────────────

/-- Lines are counted no further than the bytes of the source and one. -/
theorem line_le_of_visited {source : String} {s : Scanner} (h : Visited source s) :
    s.line ≤ source.utf8ByteSize + 1 := by
  have hplaced := placed_of_visited h
  have hlines := List.count_le_length (a := '\n') (l := s.behind source)
  have hbytes := Text.length_le_byteCount (s.behind source)
  obtain ⟨before, hframed⟩ := exists_framed_of_visited h
  obtain ⟨-, hstop, -⟩ := Text.places_of_slice? hframed.slice?_lexeme
  rw [hplaced.stop] at hstop
  rw [hplaced.line]
  omega

/-- **The content of a string is between its quotes**, one byte on from where the string starts and
    one byte before it ends. -/
theorem exists_slice?_content {source : String} {s t : Scanner} {token : Token}
    (h : Reachable source s) (hrest : s.rest ≠ []) (hturn : s.turn = (some token, t))
    (hkind : token.kind = .string) :
    ∃ content, token.literal = some (.string content) ∧
      Text.slice? source (t.start + 1) (t.stop - 1) = some content := by
  obtain ⟨lexeme, hcut, hsplit, rfl⟩ := cut_of_turn_eq_some hrest hturn
  obtain ⟨content, hcontent, rfl⟩ := (kind_eq_string_iff hcut.spells).mp hkind
  obtain rfl : s.turn.2 = t := by rw [hturn]
  have hlexeme : s.turn.2.lexeme = ['"'] ++ (content ++ ['"']) := lexeme_of_turn hsplit
  exact ⟨_, congrArg Reading.literal (hcut.spells.unique (.string hcontent)),
    (framed_turn h).slice?_inner hlexeme⟩

/-- **Where a digit stands a number is matched.**  It is what the scanner leaps over, and its token
    is the one that starts there. -/
theorem exists_number_of_isDigit {source : String} {s : Scanner} (h : Reachable source s)
    (hhead : ∃ c ∈ s.rest.head?, c.isDigit = true) :
    ∃ lexeme rest, s.rest = lexeme ++ rest ∧
      (WholeNumber lexeme rest ∨
        ∃ whole fraction, lexeme = whole ++ '.' :: fraction ∧ FractionNumber whole fraction rest) ∧
      Piece.moves s.rest = [.step, .leap lexeme.length] ∧
      TokenAt source s (Token.ofLexeme lexeme s.line) := by
  obtain ⟨c, hc, hdigit⟩ := hhead
  have hne : s.rest ≠ [] := by
    intro hnil
    rw [hnil] at hc
    contradiction
  have hcut := cut_extent hne
  have hsplit := (List.take_append_drop (extent s.rest) s.rest).symm
  have hfirst : ∃ c ∈ (s.rest.take (extent s.rest)).head?, c.isDigit = true := by
    refine ⟨c, ?_, hdigit⟩
    rw [List.head?_take, if_neg (Nat.ne_of_gt (Lexeme.extent_pos hne))]
    exact hc
  have hbegins := (stands_of_isDigit hcut hfirst).begins
  rw [← hsplit] at hbegins
  obtain ⟨-, hpiece⟩ := begins_iff.mp hbegins
  have hleapt : Piece.isLeapt s.rest = true := by
    rw [Piece.isLeapt, hpiece]
    simp [Option.mem_def.mp hc, hdigit]
  refine ⟨_, _, hsplit, hcut.number hfirst, ?_, tokenAt_of_isDigit h hsplit hcut hfirst⟩
  rw [Piece.moves, if_pos hleapt, Piece.extent_of_lexeme hpiece, List.length_take,
    Nat.min_eq_left (extent_le_length _)]

end Scanner

-- ── Slices of a run ─────────────────────────────────────────────────────────────────

/-- The slices of a source that a run takes. -/
structure SliceLaw (source : String) : Prop where
  /-- Behind any number of tokens a scanner is at a point of the run. -/
  between    : ∀ k, Visited source (afterTokens source k)
  /-- At any point the piece starts no later than where the scanner stands, and that is within the
      source. -/
  order      : ∀ s, Visited source s → s.start ≤ s.stop ∧ s.stop ≤ source.utf8ByteSize
  /-- Neither place is within a character. -/
  boundaries : ∀ s, Visited source s →
    (⟨s.start⟩ : String.Pos.Raw).IsValid source ∧ (⟨s.stop⟩ : String.Pos.Raw).IsValid source
  /-- The line reached is bounded as the places are. -/
  line       : ∀ s, Visited source s → s.line ≤ source.utf8ByteSize + 1
  /-- The text ahead is a slice of the source. -/
  remainder  : ∀ s, Visited source s →
    Text.slice? source s.stop source.utf8ByteSize = some (String.ofList s.rest)
  /-- So is the text from the start of the piece on. -/
  fromStart  : ∀ s, Visited source s →
    Text.slice? source s.start source.utf8ByteSize = some (String.ofList s.piece)
  /-- So is the piece up to where the scanner stands. -/
  lexeme     : ∀ s, Visited source s →
    Text.slice? source s.start s.stop = some (String.ofList s.lexeme)
  /-- Behind a string, what is between its quotes is a slice of the source, and its value. -/
  content    : ∀ s t token, Reachable source s → s.rest ≠ [] → s.turn = (some token, t) →
    token.kind = .string → t.start + 1 ≤ t.stop - 1 ∧
      ∃ content, token.literal = some (.string content) ∧
        Text.slice? source (t.start + 1) (t.stop - 1) = some content
  /-- Where a digit stands a number is matched in the text from there on, leapt over and made a
      token. -/
  number     : ∀ s, Reachable source s → (∃ c ∈ s.rest.head?, c.isDigit = true) →
    ∃ lexeme rest, s.rest = lexeme ++ rest ∧
      (WholeNumber lexeme rest ∨
        ∃ whole fraction, lexeme = whole ++ '.' :: fraction ∧ FractionNumber whole fraction rest) ∧
      Piece.moves s.rest = [.step, .leap lexeme.length] ∧
      TokenAt source s (Token.ofLexeme lexeme s.line)
  /-- So an error about a number is never about a place where none is matched. -/
  rejected   : ∀ t ∈ tokenize source, ∀ text, t.error? = some (.invalidNumber text) →
    ∃ s digits rest, TokenAt source s t ∧ s.rest = digits ++ rest ∧ WholeNumber digits rest ∧
      2 ^ 63 - 1 < decimalValue digits ∧ text = String.ofList digits ∧ t.lexeme = text

/-- **Every slice that a run takes is there**, in every source. -/
theorem tokenize_slices (source : String) : SliceLaw source where
  between k := .between (reachable_afterTokens source k)
  order s h := by
    obtain ⟨before, hframed⟩ := exists_framed_of_visited h
    obtain ⟨hle, hstop, -⟩ := Text.places_of_slice? hframed.slice?_lexeme
    exact ⟨hle, hstop⟩
  boundaries s h := by
    obtain ⟨before, hframed⟩ := exists_framed_of_visited h
    exact (Text.places_of_slice? hframed.slice?_lexeme).2.2
  line s h := line_le_of_visited h
  remainder s h := by
    obtain ⟨before, hframed⟩ := exists_framed_of_visited h
    exact hframed.slice?_remainder
  fromStart s h := by
    obtain ⟨before, hframed⟩ := exists_framed_of_visited h
    exact hframed.slice?_fromStart
  lexeme s h := by
    obtain ⟨before, hframed⟩ := exists_framed_of_visited h
    exact hframed.slice?_lexeme
  content s t token h hrest hturn hkind := by
    obtain ⟨content, hliteral, hslice⟩ := exists_slice?_content h hrest hturn hkind
    exact ⟨(Text.places_of_slice? hslice).1, content, hliteral, hslice⟩
  number s h hhead := exists_number_of_isDigit h hhead
  rejected t ht text herror := exists_wholeNumber_of_error? ht herror

end KindLex
