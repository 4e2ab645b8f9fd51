import KindLex.Sink
import KindLex.Text.Column
import KindLex.Token

/-!
# The table of tokens

A table has a row for every token and three columns: the kind with its number, the lexeme, and the
value.

* **`join_rowPieces`**: the pieces in which a row is written make up the row and its line feed.
-/

namespace KindLex.Table

/-- The width of the column of kinds. -/
def kindWidth : Nat := 20

/-- The width of the column of lexemes. -/
def lexemeWidth : Nat := 15

/-- The width of the column of values. -/
def literalWidth : Nat := 10

/-- A kind with its number. -/
def kindText (kind : Kind) : String :=
  kind.name ++ " (" ++ toString kind.code ++ ")"

/-- The value of a token, or a word for its absence. -/
def literalText (literal : Option Literal) : String :=
  match literal with
  | some value => value.text
  | none       => "null"

/-- The row of a token. -/
def row (t : Token) : String :=
  Text.padRight kindWidth (kindText t.kind)
    ++ " " ++ Text.padRight lexemeWidth t.lexeme
    ++ " " ++ Text.padRight literalWidth (literalText t.literal)

/-- The lines of a table. -/
def lines (tokens : List Token) : List String :=
  tokens.map fun t => row t ++ "\n"

/-- The whole table. -/
def text (tokens : List Token) : String :=
  String.join (lines tokens)

/-- The pieces in which the row of a token and its line feed are written. -/
def rowPieces (t : Token) : List String :=
  Text.padRightPieces kindWidth (kindText t.kind) ++
    " " :: Text.padRightPieces lexemeWidth t.lexeme ++
    " " :: Text.padRightPieces literalWidth (literalText t.literal) ++ ["\n"]

/-- Writes the table of some tokens, up to the first piece that is not taken. -/
def writeTo {m : Type → Type} {ε : Type} [Monad m] (out : Writer m ε) (tokens : List Token) :
    ExceptT ε m Unit :=
  tokens.forM fun t => out.putAll (rowPieces t)

/-- A sink after the table of some tokens. -/
def write (sink : Sink) (tokens : List Token) : Sink × Option WriteError :=
  sink.after (writeTo Sink.writer tokens)

/-- The pieces of a row make up the row and its line feed. -/
theorem join_rowPieces (t : Token) : String.join (rowPieces t) = row t ++ "\n" := by
  simp only [rowPieces, row, String.join_append, String.join_cons, String.join_nil,
    Text.join_padRightPieces, String.append_assoc, String.append_empty]

end KindLex.Table
