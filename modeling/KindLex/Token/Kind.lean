import KindLex.Token.Keyword
import KindLex.Token.Lookup
import KindLex.Token.Punctuation

/-!
# Kinds of token

A kind is a punctuation mark, a class of literals or names, a keyword, or one of two sentinels.
Each has a name, a number that never changes, and a family.

* **`Kind.ofCode?_eq_some_iff`**: the number of a kind determines it.
-/

namespace KindLex

/-- The four groups of kinds. -/
inductive Family where
  | punctuation | literal | reserved | sentinel
  deriving DecidableEq

/-- The name of a family. -/
def Family.name : Family → String
  | .punctuation => "Punctuation"
  | .literal     => "Literal"
  | .reserved    => "Reserved"
  | .sentinel    => "Sentinel"

/-- What sort of token a piece of text is. -/
inductive Kind where
  | punctuation (mark : Punctuation)
  | identifier
  | upperIdentifier
  | string
  | character
  | integer
  | real
  | boolean
  | keyword (word : Keyword)
  | error
  | eof
  deriving DecidableEq

namespace Kind

/-- Every kind: marks, then literals and names, then keywords, then the sentinels. -/
def all : List Kind :=
  Punctuation.all.map .punctuation
    ++ [.identifier, .upperIdentifier, .string, .character, .integer, .real, .boolean]
    ++ Keyword.all.map .keyword
    ++ [.error, .eof]

/-- The name under which tables and logs show a kind. -/
def name : Kind → String
  | .punctuation mark => mark.name
  | .identifier       => "Identifier"
  | .upperIdentifier  => "UpperIdentifier"
  | .string           => "String"
  | .character        => "Character"
  | .integer          => "Integer"
  | .real             => "Real"
  | .boolean          => "Boolean"
  | .keyword word     => word.name
  | .error            => "Error"
  | .eof              => "EOF"

/-- The number of a kind. -/
def code : Kind → Nat
  | .punctuation mark => mark.code
  | .identifier       => 1000
  | .upperIdentifier  => 1010
  | .integer          => 2010
  | .real             => 2020
  | .boolean          => 2030
  | .character        => 3000
  | .string           => 4000
  | .keyword word     => word.code
  | .error            => 666
  | .eof              => 0

/-- The group that a kind belongs to. -/
def family : Kind → Family
  | .punctuation _ => .punctuation
  | .keyword _     => .reserved
  | .error | .eof  => .sentinel
  | .identifier | .upperIdentifier | .string | .character | .integer | .real | .boolean => .literal

/-- Whether a kind is a keyword. -/
def isKeyword (kind : Kind) : Bool :=
  kind.family == .reserved

/-- The kind with a given number. -/
def ofCode? (n : Nat) : Option Kind :=
  all.find? (·.code == n)

/-- The kind with a given name. -/
def ofName? (name : String) : Option Kind :=
  all.find? (·.name == name)

/-- The list of all kinds leaves none out. -/
theorem mem_all (kind : Kind) : kind ∈ all := by
  cases kind with
  | punctuation mark => simp [all, Punctuation.mem_all mark]
  | keyword word => simp [all, Keyword.mem_all word]
  | _ => decide

/-- Two kinds with one number are one kind. -/
theorem code_injective {a b : Kind} (h : a.code = b.code) : a = b := by
  have key : ∀ a ∈ all, ∀ b ∈ all, a.code = b.code → a = b := by decide +kernel
  exact key a (mem_all a) b (mem_all b) h

/-- The number of a kind determines it. -/
theorem ofCode?_eq_some_iff {n : Nat} {kind : Kind} : ofCode? n = some kind ↔ kind.code = n :=
  (find?_key_eq_some_iff fun _ _ _ _ h => code_injective h).trans (and_iff_right (mem_all kind))

end Kind

end KindLex
