import KindLex.Binary64.Shortest
import KindLex.LexicalError

/-!
# Literals

The value that a token carries: a number, a character, a string, a truth value, or the error that
says why the text has none.
-/

namespace KindLex

/-- The text of a real number: reals whose first digit counts a power of ten from -4 to 15 are
    written positionally, the others with the mark `e`. -/
def Binary64.layout : Decimal.Layout := ⟨-4, 15, 'e'⟩

/-- A real number in its fewest digits, always with a fraction when it is positional. -/
def Binary64.text (x : Binary64) : String :=
  if x.isNaN then "NaN"
  else
    let size :=
      if x.isInfinite then "inf"
      else String.ofList ((shortest x.magnitude).layOut layout)
    if x.isNegative then "-" ++ size else size

/-- The value of a token. -/
inductive Literal where
  | integer (value : Int)
  | real (value : Binary64)
  | character (value : Char)
  | string (value : String)
  | boolean (value : Bool)
  | error (cause : LexicalError)
  deriving DecidableEq

namespace Literal

/-- How a literal is shown; an error is shown by its message. -/
def text : Literal → String
  | .integer value   => toString value
  | .real value      => value.text
  | .character value => value.toString
  | .string value    => value
  | .boolean value   => toString value
  | .error cause     => cause.message

/-- Equality of values: reals are compared as numbers. -/
def sameValue : Literal → Literal → Bool
  | .real x, .real y => x.numEq y
  | a, b             => a == b

end Literal

end KindLex
