import KindLex.Literal
import KindLex.Token.Kind

/-!
# Tokens

A token is a kind, the exact text it was read from, its value if it has one, and the number of the
line on which the text ends.
-/

namespace KindLex

/-- A piece of a program with what is known about it. -/
structure Token where
  kind    : Kind
  lexeme  : String
  literal : Option Literal
  line    : Nat
  deriving DecidableEq

namespace Token

/-- Whether the token marks the end of the text. -/
def isEof (t : Token) : Bool :=
  t.kind == .eof

/-- Whether the kind of the token is that of errors. -/
def isError (t : Token) : Bool :=
  t.kind == .error

/-- The error that the token carries as its value. -/
def error? (t : Token) : Option LexicalError :=
  match t.literal with
  | some (.error cause) => some cause
  | _                   => none

theorem error?_eq_some_iff {t : Token} {cause : LexicalError} :
    t.error? = some cause ↔ t.literal = some (.error cause) := by
  rw [error?]
  split
  · rename_i other hliteral
    simp [hliteral]
  · rename_i hother
    exact iff_of_false nofun (hother cause)

/-- Equality of tokens, with real values compared as numbers. -/
def same (s t : Token) : Bool :=
  s.kind == t.kind && s.lexeme == t.lexeme && s.line == t.line &&
    match s.literal, t.literal with
    | some a, some b => a.sameValue b
    | none,   none   => true
    | _,      _      => false

end Token

end KindLex
