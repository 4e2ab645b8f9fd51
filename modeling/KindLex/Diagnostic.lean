import KindLex.Sink
import KindLex.Text.Column
import KindLex.Text.Lines
import KindLex.Token

/-!
# Diagnostics

An error is shown in five lines: what it is and what may help, where it is, and, behind a gutter as
wide as the line number, the line of the source and what is wrong with it.

```text
Error: UnexpectedCharacter (Did you mean `&&`?)
-> cuenta.kpp:7
  |
7 | siCumple (a & b)
  | unexpected character '&'
```

* **`join_blockPieces`**: the pieces in which the lines are written make them up.
-/

namespace KindLex.Diagnostic

/-- What the error is, and what may help. -/
def heading (cause : LexicalError) : String :=
  match cause.tip? with
  | some tip => "Error: " ++ cause.name ++ " (" ++ tip ++ ")"
  | none     => "Error: " ++ cause.name

/-- The gutter beside a line that has no number. -/
def gutter (line : Nat) : String :=
  Text.padLeft ((toString line).length + 2) "|"

/-- The line of the source that a diagnostic shows: empty if the source has no such line. -/
def excerpt (source : String) (line : Nat) : String :=
  Text.trim ((Text.line? source line).getD "")

/-- The five lines that show an error on a line of a source. -/
def block (cause : LexicalError) (line : Nat) (source file : String) : List String :=
  [heading cause,
   "-> " ++ file ++ ":" ++ toString line,
   gutter line,
   toString line ++ " | " ++ excerpt source line,
   gutter line ++ " " ++ cause.message]

/-- The lines that show a token: a token without an error has none. -/
def lines (t : Token) (source file : String) : List String :=
  match t.error? with
  | some cause => (block cause t.line source file).map (· ++ "\n")
  | none       => []

/-- The lines that show all errors among some tokens. -/
def allLines (tokens : List Token) (source file : String) : List String :=
  tokens.flatMap fun t => lines t source file

/-- The pieces in which is written what the error is, and what may help. -/
def headingPieces (cause : LexicalError) : List String :=
  match cause.tip? with
  | some tip => ["Error: ", cause.name, " (", tip, ")\n"]
  | none     => ["Error: ", cause.name, "\n"]

/-- The pieces in which the gutter is written. -/
def gutterPieces (line : Nat) : List String :=
  Text.padLeftPieces ((toString line).length + 2) "|"

/-- The five lines, each in the pieces in which it is written. -/
def blockPieces (cause : LexicalError) (line : Nat) (source file : String) : List (List String) :=
  [headingPieces cause,
   ["-> ", file, ":", toString line, "\n"],
   gutterPieces line ++ ["\n"],
   [toString line, " | ", excerpt source line, "\n"],
   gutterPieces line ++ " " :: cause.messagePieces ++ ["\n"]]

section Writing

variable {m : Type → Type} {ε : Type} [Monad m]

/-- Writes the lines that show a token, up to the first piece that is not taken. -/
def writeTo (out : Writer m ε) (source file : String) (t : Token) : ExceptT ε m Unit :=
  match t.error? with
  | some cause => (blockPieces cause t.line source file).forM out.putAll
  | none       => pure ()

/-- Writes the lines that show all errors among some tokens. -/
def writeAllTo (out : Writer m ε) (source file : String) (tokens : List Token) :
    ExceptT ε m Unit :=
  tokens.forM (writeTo out source file)

end Writing

/-- A sink after the lines that show a token. -/
def write (source file : String) (sink : Sink) (t : Token) : Sink × Option WriteError :=
  sink.after (writeTo Sink.writer source file t)

/-- A sink after the lines that show all errors among some tokens. -/
def writeAll (source file : String) (sink : Sink) (tokens : List Token) :
    Sink × Option WriteError :=
  sink.after (writeAllTo Sink.writer source file tokens)

/-- The pieces of the five lines make them up. -/
theorem join_blockPieces (cause : LexicalError) (line : Nat) (source file : String) :
    (blockPieces cause line source file).map String.join =
      (block cause line source file).map (· ++ "\n") := by
  have hheading : String.join (headingPieces cause) = heading cause ++ "\n" := by
    rw [headingPieces, heading]
    split <;> simp [String.join_cons, String.append_assoc]
  simp [blockPieces, block, hheading, gutterPieces, gutter, Text.join_padLeftPieces,
    LexicalError.join_messagePieces, String.join_cons, String.join_append, String.append_assoc]

end KindLex.Diagnostic
