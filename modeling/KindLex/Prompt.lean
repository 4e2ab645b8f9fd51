import KindLex.Reader
import KindLex.SystemError
import KindLex.Text.Lines
import KindLex.Text.Utf8

/-!
# Programs typed at a prompt

A program that is typed ends with a line that holds nothing but `#`, or where the input ends.  The
input is bytes: line after line is taken from a reader and read as text when its turn comes, so that
nothing behind the last line matters.
-/

namespace KindLex.Prompt

/-- The line that ends a program, apart from white space around it. -/
def terminator : String := "#"

/-- What was typed: the program, unless there was no line of it, and how many bytes of the input
    come after it. -/
structure Entry where
  program : Option String
  unread  : Nat
  deriving DecidableEq

/-- The lines of the input, as bytes, each with the line feed that ends it. -/
def lines (input : List UInt8) : List (List UInt8) :=
  Text.splitAfter (· == 10) input

/-- A line as text, without what ends it, if it is text. -/
def lineText? (line : List UInt8) : Option String :=
  (Text.Utf8.decode? line).map fun text => String.ofList (Text.chomp text.toList)

/-- Whether nothing behind a line is read: the line ends the program, or it is no text. -/
def endsReading (line : List UInt8) : Bool :=
  match lineText? line with
  | none      => true
  | some text => Text.trim text == terminator

/-- Takes the lines of a program from a reader, behind the code of those that were taken before.
    Each of them ends in a line feed in the code, however it was typed. -/
def readLinesFrom (code : String) (reader : Reader) : Except IoCause String × Reader :=
  if hline : reader.readLine.1 = [] then (.ok code, reader.readLine.2)
  else
    have := Reader.length_bytes_readLine_lt hline
    match lineText? reader.readLine.1 with
    | none      => (.error .invalidText, reader.readLine.2)
    | some text =>
        if Text.trim text = terminator then (.ok code, reader.readLine.2)
        else readLinesFrom (code ++ text ++ "\n") reader.readLine.2
termination_by reader.bytes.length

/-- Reads a program from a reader, and the reader that is left. -/
def readFrom (reader : Reader) : Except IoCause (Option String) × Reader :=
  let (result, behind) := readLinesFrom "" reader
  (result.map fun code => if code.isEmpty then none else some code, behind)

/-- Reads a program from an input that is there as a whole. -/
def read (input : List UInt8) : Except IoCause Entry :=
  let (result, behind) := readFrom (.ofBytes input)
  result.map fun program => ⟨program, behind.bytes.length⟩

end KindLex.Prompt
