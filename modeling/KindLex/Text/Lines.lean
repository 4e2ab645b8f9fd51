import KindLex.Text.Pieces
import KindLex.Unicode.WhiteSpace

/-!
# Lines

A text is cut into lines after every line feed; a rest without one is a line too, so that a text
that ends in a line feed has no empty line behind it.
-/

namespace KindLex.Text

/-- The lines of a text, each with the line feed that ends it. -/
def lines (text : List Char) : List (List Char) :=
  splitAfter (· == '\n') text

/-- The characters that may end a line. -/
def endsLine (c : Char) : Bool :=
  c == '\n' || c == '\r'

/-- The line of a text with a given number, counted from one, without the line feed and carriage
    returns that end it. -/
def line? (text : String) : Nat → Option String
  | 0          => none
  | number + 1 =>
      (lines text.toList)[number]?.map fun line => String.ofList (dropEndWhile endsLine line)

/-- A line without the line feed that ends it, or the carriage return and line feed. -/
def chomp (line : List Char) : List Char :=
  match line.reverse with
  | '\n' :: '\r' :: rest => rest.reverse
  | '\n' :: rest         => rest.reverse
  | _                    => line

/-- A text without the white space at its ends. -/
def trim (text : String) : String :=
  String.ofList (dropEndWhile Unicode.isWhiteSpace (text.toList.dropWhile Unicode.isWhiteSpace))

end KindLex.Text
