import KindLex.Lexeme.Extent

/-!
# Trivia

What stands between tokens: blanks, which are the space, the tab, the carriage return and the line
feed, and comments, which run from two slashes up to the end of the line.
-/

namespace KindLex.Trivia

/-- The characters that separate tokens. -/
def isBlank (c : Char) : Bool :=
  c == ' ' || c == '\t' || c == '\r' || c == '\n'

theorem isBlank_iff (c : Char) : isBlank c = true ↔ c ∈ [' ', '\t', '\r', '\n'] := by
  simp [isBlank, or_assoc]

/-- How far the comment at the start of a text goes.  The line feed after it is a blank like any
    other. -/
def commentExtent (text : List Char) : Nat :=
  Lexeme.run (· != '\n') text

end KindLex.Trivia
