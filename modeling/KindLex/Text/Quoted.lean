import KindLex.Unicode.DefaultIgnorable
import KindLex.Unicode.ExtendingMark
import KindLex.Unicode.Invisible

/-!
# Quoted text

A text between double quotes in which every character can be told from its neighbours: quotes,
backslashes and the common control characters have short escapes, and a character that shows nothing
of its own is given by its number.
-/

namespace KindLex.Text

/-- The number of a character in lower-case hexadecimal digits. -/
def hexadecimal (c : Char) : List Char :=
  Nat.toDigits 16 c.toNat

/-- Whether a character shows nothing of its own: it has no shape, or it only changes the shape of
    the one before it. -/
def isUnseen (c : Char) : Bool :=
  Unicode.isInvisible c || Unicode.isDefaultIgnorable c || Unicode.isExtendingMark c

/-- How one character stands between quotes. -/
def quotedChar (c : Char) : List Char :=
  match c with
  | '\x00' => ['\\', '0']
  | '\t'   => ['\\', 't']
  | '\r'   => ['\\', 'r']
  | '\n'   => ['\\', 'n']
  | '\\'   => ['\\', '\\']
  | '"'    => ['\\', '"']
  | c      =>
      if isUnseen c then
        ['\\', 'u', '\x7b'] ++ hexadecimal c ++ ['\x7d']
      else [c]

/-- A text between double quotes, with what cannot be seen escaped. -/
def quoted (text : String) : String :=
  String.ofList (['"'] ++ text.toList.flatMap quotedChar ++ ['"'])

end KindLex.Text
