import KindLex.Token.Kind

/-!
# Reserved words

The words that no program may use as a name: the keywords that are words, and the two truth values.

* **`ReservedWord.ofText?_eq_some_iff`**: the spelling of a reserved word determines it.
-/

namespace KindLex

/-- A word that is not a name. -/
inductive ReservedWord where
  | keyword (word : Keyword)
  | truth (value : Bool)
  deriving DecidableEq

namespace ReservedWord

/-- Every reserved word. -/
def all : List ReservedWord :=
  Keyword.words.map .keyword ++ [.truth true, .truth false]

/-- How a reserved word is written in a program. -/
def spelling : ReservedWord → String
  | .keyword word => word.spelling
  | .truth true   => "true"
  | .truth false  => "false"

/-- The kind of token that a reserved word makes. -/
def kind : ReservedWord → Kind
  | .keyword word => .keyword word
  | .truth _      => .boolean

/-- The reserved word with a given spelling. -/
def ofText? (text : String) : Option ReservedWord :=
  all.find? (·.spelling == text)

/-- The spelling of a reserved word determines it. -/
theorem ofText?_eq_some_iff {text : String} {word : ReservedWord} :
    ofText? text = some word ↔ word ∈ all ∧ word.spelling = text :=
  find?_key_eq_some_iff (by decide +kernel)

theorem keyword_mem_all {word : Keyword} : .keyword word ∈ all ↔ word ≠ .adiosTriste := by
  cases word <;> decide

end ReservedWord

end KindLex
