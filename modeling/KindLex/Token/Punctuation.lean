import KindLex.Token.Lookup

/-!
# Punctuation

The operators and brackets of Kind++.  A mark has one spelling of one or two characters, and the
marks of two characters start as a mark of one character does or as no mark at all.

* **`Punctuation.ofSpelling?_eq_some_iff`**: the spelling of a mark determines it.
-/

namespace KindLex

/-- The marks that are neither words nor literals. -/
inductive Punctuation where
  | colon | smiley | dot | star | plus | minus | less | greater | slash | percent
  | and | or | comma
  | openParen | closeParen | openCurly | closeCurly
  | assignment | equals | notEquals | lessEquals | greaterEquals
  | openBracket | closeBracket
  deriving DecidableEq

namespace Punctuation

/-- Every mark, in the order of the codes. -/
def all : List Punctuation :=
  [.colon, .smiley, .dot, .star, .plus, .minus, .less, .greater, .slash, .percent,
   .and, .or, .comma,
   .openParen, .closeParen, .openCurly, .closeCurly,
   .assignment, .equals, .notEquals, .lessEquals, .greaterEquals,
   .openBracket, .closeBracket]

/-- The list of all marks leaves none out. -/
theorem mem_all (p : Punctuation) : p ∈ all := by
  cases p <;> decide

/-- How a mark is written in a program. -/
def spelling : Punctuation → String
  | .colon         => ":"
  | .smiley        => ":)"
  | .dot           => "."
  | .star          => "*"
  | .plus          => "+"
  | .minus         => "-"
  | .less          => "<"
  | .greater       => ">"
  | .slash         => "/"
  | .percent       => "%"
  | .and           => "&&"
  | .or            => "||"
  | .comma         => ","
  | .openParen     => "("
  | .closeParen    => ")"
  | .openCurly     => "\x7b"
  | .closeCurly    => "\x7d"
  | .assignment    => "="
  | .equals        => "=="
  | .notEquals     => "!="
  | .lessEquals    => "<="
  | .greaterEquals => ">="
  | .openBracket   => "["
  | .closeBracket  => "]"

/-- The name under which tables show a mark. -/
def name : Punctuation → String
  | .colon         => "Colon"
  | .smiley        => "Smiley"
  | .dot           => "Dot"
  | .star          => "Star"
  | .plus          => "Plus"
  | .minus         => "Minus"
  | .less          => "Less"
  | .greater       => "Greater"
  | .slash         => "Slash"
  | .percent       => "Percent"
  | .and           => "And"
  | .or            => "Or"
  | .comma         => "Comma"
  | .openParen     => "OpenParen"
  | .closeParen    => "CloseParen"
  | .openCurly     => "OpenCurly"
  | .closeCurly    => "CloseCurly"
  | .assignment    => "Assignment"
  | .equals        => "Equals"
  | .notEquals     => "NotEquals"
  | .lessEquals    => "LessEquals"
  | .greaterEquals => "GreaterEquals"
  | .openBracket   => "OpenBracket"
  | .closeBracket  => "CloseBracket"

/-- The number of a mark: marks are numbered from 50 to 73. -/
def code : Punctuation → Nat
  | .colon         => 50
  | .smiley        => 51
  | .dot           => 52
  | .star          => 53
  | .plus          => 54
  | .minus         => 55
  | .less          => 56
  | .greater       => 57
  | .slash         => 58
  | .percent       => 59
  | .and           => 60
  | .or            => 61
  | .comma         => 62
  | .openParen     => 63
  | .closeParen    => 64
  | .openCurly     => 65
  | .closeCurly    => 66
  | .assignment    => 67
  | .equals        => 68
  | .notEquals     => 69
  | .lessEquals    => 70
  | .greaterEquals => 71
  | .openBracket   => 72
  | .closeBracket  => 73

/-- The mark that is written with exactly these characters. -/
def ofSpelling? (text : List Char) : Option Punctuation :=
  all.find? (·.spelling.toList == text)

/-- Two marks with one spelling are one mark. -/
theorem spelling_injective {p q : Punctuation} (h : p.spelling.toList = q.spelling.toList) :
    p = q := by
  have key : ∀ p ∈ all, ∀ q ∈ all, p.spelling.toList = q.spelling.toList → p = q := by
    decide +kernel
  exact key p (mem_all p) q (mem_all q) h

/-- The spelling of a mark determines it. -/
theorem ofSpelling?_eq_some_iff {text : List Char} {p : Punctuation} :
    ofSpelling? text = some p ↔ p.spelling.toList = text :=
  (find?_key_eq_some_iff fun _ _ _ _ h => spelling_injective h).trans (and_iff_right (mem_all p))

/-- A mark has one or two characters. -/
theorem length_spelling (p : Punctuation) :
    p.spelling.toList.length = 1 ∨ p.spelling.toList.length = 2 := by
  have key : ∀ p ∈ all, p.spelling.toList.length = 1 ∨ p.spelling.toList.length = 2 := by
    decide +kernel
  exact key p (mem_all p)

end Punctuation

end KindLex
