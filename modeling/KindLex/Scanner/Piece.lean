import KindLex.Trivia

/-!
# Pieces of a text

A text is passed piece by piece: blanks one by one, comments, and lexemes.  There are two ways to
pass a piece.  One goes through it step by step and counts the line feeds on its way; the other
takes one step and leaps to the end of the piece, and what it leaps over is not looked at again.
Comments, numbers, words and the farewell are leapt over.
-/

namespace KindLex

/-- What a text that is not empty starts with. -/
inductive Piece where
  | blank | comment | lexeme
  deriving DecidableEq

/-- A movement of a scanner within a piece. -/
inductive Move where
  /-- Over the next character, which counts if it is a line feed. -/
  | step
  /-- To so many characters behind the start of the piece, without counting. -/
  | leap (distance : Nat)
  deriving DecidableEq

namespace Piece

/-- The piece at the start of a text. -/
def ofText : List Char → Piece
  | '/' :: '/' :: _ => .comment
  | c :: _          => if Trivia.isBlank c then .blank else .lexeme
  | []              => .lexeme

/-- How many characters belong to the piece at the start of a text. -/
def extent (text : List Char) : Nat :=
  match ofText text with
  | .blank   => 1
  | .comment => Trivia.commentExtent text
  | .lexeme  => Lexeme.extent text

/-- Whether the piece at the start of a text is leapt over: a comment, or what begins with a digit
    or as a word does. -/
def isLeapt (text : List Char) : Bool :=
  match ofText text with
  | .blank   => false
  | .comment => true
  | .lexeme  => text.head?.any fun c => c.isDigit || Lexeme.isWordStart c

/-- The moves over the piece at the start of a text. -/
def moves (text : List Char) : List Move :=
  if isLeapt text then [.step, .leap (extent text)] else List.replicate (extent text) .step

theorem ofText_of_slashes {text : List Char} (h : ['/', '/'] <+: text) :
    ofText text = .comment := by
  obtain ⟨rest, rfl⟩ := h
  rfl

theorem ofText_cons {c : Char} {rest : List Char} (h : ¬ ['/', '/'] <+: c :: rest) :
    ofText (c :: rest) = if Trivia.isBlank c then .blank else .lexeme := by
  rw [ofText]
  rintro tail rfl rfl
  exact h ⟨tail, rfl⟩

theorem extent_of_lexeme {text : List Char} (h : ofText text = .lexeme) :
    extent text = Lexeme.extent text := by
  rw [extent, h]

/-- A text that is not empty starts with a piece that is not empty. -/
theorem extent_pos {text : List Char} (h : text ≠ []) : 0 < extent text := by
  rw [extent]
  split
  · exact Nat.one_pos
  · rename_i hcomment
    unfold ofText at hcomment
    split at hcomment
    · exact Lexeme.run_pos (by decide)
    · split at hcomment <;> contradiction
    · contradiction
  · exact Lexeme.extent_pos h

end Piece

end KindLex
