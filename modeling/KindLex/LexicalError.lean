/-!
# Lexical errors

What can be wrong with a piece of text, the words that say so, and the advice that goes with it.
The wording lives here and nowhere else.
-/

namespace KindLex

/-- Why a piece of text is no token of the language. -/
inductive LexicalError where
  /-- A quote opens a string and no later quote closes it. -/
  | unterminatedString
  /-- An apostrophe is not followed by one character and another apostrophe. -/
  | malformedCharacter (lexeme : String)
  /-- A word holds characters that no name may hold. -/
  | invalidIdentifier (text : String)
  /-- A character begins nothing. -/
  | unexpectedCharacter (character : Char)
  /-- A number is out of range. -/
  | invalidNumber (text : String)
  deriving DecidableEq

namespace LexicalError

/-- The name of the cause. -/
def name : LexicalError → String
  | .unterminatedString    => "UnterminatedString"
  | .malformedCharacter _  => "MalformedCharacter"
  | .invalidIdentifier _   => "InvalidIdentifier"
  | .unexpectedCharacter _ => "UnexpectedCharacter"
  | .invalidNumber _       => "InvalidNumber"

/-- The text that is at fault, where the error names it. -/
def payload? : LexicalError → Option String
  | .unterminatedString     => none
  | .malformedCharacter text => some text
  | .invalidIdentifier text => some text
  | .unexpectedCharacter c  => some c.toString
  | .invalidNumber text     => some text

/-- What is wrong, as one phrase. -/
def message : LexicalError → String
  | .unterminatedString      => "unterminated string literal"
  | .malformedCharacter text => "malformed character literal: " ++ text
  | .invalidIdentifier text  => "invalid identifier '" ++ text ++ "'"
  | .unexpectedCharacter c   => "unexpected character '" ++ c.toString ++ "'"
  | .invalidNumber text      => "invalid number literal: " ++ text

/-- The pieces in which the phrase is written: its words, and the text that is at fault. -/
def messagePieces : LexicalError → List String
  | .unterminatedString      => ["unterminated string literal"]
  | .malformedCharacter text => ["malformed character literal: ", text]
  | .invalidIdentifier text  => ["invalid identifier '", text, "'"]
  | .unexpectedCharacter c   => ["unexpected character '", c.toString, "'"]
  | .invalidNumber text      => ["invalid number literal: ", text]

/-- The pieces of the phrase make it up. -/
theorem join_messagePieces (cause : LexicalError) :
    String.join cause.messagePieces = cause.message := by
  have hone (words : String) : String.join [words] = words := by
    rw [String.join_cons, String.join_nil, String.append_empty]
  have htwo (words text : String) : String.join [words, text] = words ++ text := by
    rw [String.join_cons, hone]
  have hthree (before text after : String) :
      String.join [before, text, after] = before ++ text ++ after := by
    rw [String.join_cons, htwo, String.append_assoc]
  cases cause with
  | unterminatedString      => exact hone _
  | malformedCharacter text => exact htwo _ text
  | invalidIdentifier text  => exact hthree _ text _
  | unexpectedCharacter c   => exact hthree _ c.toString _
  | invalidNumber text      => exact htwo _ text

/-- What the writer may have meant, where there is a guess: a character that is the first half of
    an operator suggests the operator. -/
def tip? : LexicalError → Option String
  | .unterminatedString      => some "Add a closing `\"` to the string"
  | .malformedCharacter _    => some "Character literals hold exactly one character, like 'a'"
  | .invalidIdentifier _     => some "Identifiers may only use ASCII letters, digits and `_`"
  | .unexpectedCharacter '!' => some "Did you mean `!=`?"
  | .unexpectedCharacter '&' => some "Did you mean `&&`?"
  | .unexpectedCharacter '|' => some "Did you mean `||`?"
  | .unexpectedCharacter _   => none
  | .invalidNumber text      =>
      some ("Invalid number: `" ++ text ++ "`, is it above the integer limit?")

end LexicalError

end KindLex
