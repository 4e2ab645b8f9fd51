import KindLex.Lexeme.Extent
import KindLex.Literal
import KindLex.Token.ReservedWord

/-!
# What a lexeme is

A lexeme by itself, without what stood before or after it, determines what it is: its kind and its
value, or its error.  A reading holds the two together, so that a kind never comes with the wrong
sort of value.  The empty lexeme stands for the end of the text.
-/

namespace KindLex

/-- What a lexeme is. -/
inductive Reading where
  | mark (sign : Punctuation)
  | keyword (word : Keyword)
  | identifier
  | upperIdentifier
  | boolean (value : Bool)
  | integer (value : Nat)
  | real (value : Binary64)
  | character (value : Char)
  | string (value : String)
  | error (cause : LexicalError)
  | endOfText
  deriving DecidableEq

namespace Reading

/-- The kind of token that a reading makes. -/
def kind : Reading → Kind
  | .mark sign       => .punctuation sign
  | .keyword word    => .keyword word
  | .identifier      => .identifier
  | .upperIdentifier => .upperIdentifier
  | .boolean _       => .boolean
  | .integer _       => .integer
  | .real _          => .real
  | .character _     => .character
  | .string _        => .string
  | .error _         => .error
  | .endOfText       => .eof

/-- The value of the token that a reading makes. -/
def literal : Reading → Option Literal
  | .mark _          => none
  | .keyword _       => none
  | .identifier      => none
  | .upperIdentifier => none
  | .boolean value   => some (.boolean value)
  | .integer value   => some (.integer value)
  | .real value      => some (.real value)
  | .character value => some (.character value)
  | .string value    => some (.string value)
  | .error cause     => some (.error cause)
  | .endOfText       => none

/-! ## Names and numbers -/

/-- Whether a word is a name: ASCII letters, digits and `_`, and no digit first. -/
def isName : List Char → Bool
  | []        => false
  | c :: rest => (c.isAlpha || c == '_') && rest.all fun d => d.isAlphanum || d == '_'

/-- Whether a word is a name in capitals: it starts with a capital and holds no small letter. -/
def isUpperName : List Char → Bool
  | []        => false
  | c :: rest => c.isUpper && rest.all fun d => d.isUpper || d.isDigit || d == '_'

/-- The reading of a word. -/
def ofWord (word : List Char) : Reading :=
  match ReservedWord.ofText? (String.ofList word) with
  | some (.keyword reserved) => .keyword reserved
  | some (.truth value)      => .boolean value
  | none =>
      if isUpperName word then .upperIdentifier
      else if isName word then .identifier
      else .error (.invalidIdentifier (String.ofList word))

/-- The greatest integer that has a literal. -/
def greatestInteger : Nat := Nat.pow 2 63 - 1

/-- The reading of a number: a whole number within the range of integers, or, with a fraction, the
    nearest double. -/
def ofNumber (number : List Char) : Reading :=
  let whole := number.takeWhile Char.isDigit
  match number.dropWhile Char.isDigit with
  | '.' :: fraction =>
      let value : Decimal := ⟨Decimal.ofDigits (whole ++ fraction), -(fraction.length : Int)⟩
      .real (Binary64.ofDecimal value)
  | _ =>
      if Decimal.ofDigits whole ≤ greatestInteger then .integer (Decimal.ofDigits whole)
      else .error (.invalidNumber (String.ofList number))

/-- The reading of a mark, or of a character that is none.  A letter gets here only if the edition
    of the property that words go by does not have it yet. -/
def ofMark (c : Char) (rest : List Char) : Reading :=
  match Punctuation.ofSpelling? (c :: rest) with
  | some sign => .mark sign
  | none =>
      if Unicode.isAlphabetic17 c then .error (.invalidIdentifier (String.ofList (c :: rest)))
      else .error (.unexpectedCharacter c)

/-- What a lexeme is. -/
def ofLexeme : List Char → Reading
  | []                => .endOfText
  | '"' :: rest       =>
      if '"' ∈ rest then .string (String.ofList rest.dropLast) else .error .unterminatedString
  | ['\'', c, '\'']   => .character c
  | '\'' :: rest      => .error (.malformedCharacter (String.ofList ('\'' :: rest)))
  | c :: rest         =>
      if c :: rest = Lexeme.farewell then .keyword .adiosTriste
      else if c.isDigit then ofNumber (c :: rest)
      else if Lexeme.isWordStart c then ofWord (c :: rest)
      else ofMark c rest

/-- What is said of a lexeme that opens neither a string nor a character literal. -/
theorem ofLexeme_of_ne {c : Char} {rest : List Char} (hquote : c ≠ '"') (hapostrophe : c ≠ '\'') :
    ofLexeme (c :: rest) =
      if c :: rest = Lexeme.farewell then .keyword .adiosTriste
      else if c.isDigit then ofNumber (c :: rest)
      else if Lexeme.isWordStart c then ofWord (c :: rest)
      else ofMark c rest := by
  unfold ofLexeme
  split
  · contradiction
  · rename_i heq
    exact absurd (List.cons.inj heq).1 hquote
  · rename_i heq
    exact absurd (List.cons.inj heq).1 hapostrophe
  · rename_i heq
    exact absurd (List.cons.inj heq).1 hapostrophe
  · rename_i heq
    obtain ⟨rfl, rfl⟩ := List.cons.inj heq
    rfl

end Reading

end KindLex
