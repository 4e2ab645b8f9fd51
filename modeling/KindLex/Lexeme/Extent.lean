import KindLex.Token.Keyword
import KindLex.Token.Punctuation
import KindLex.Unicode.Alphabetic
import KindLex.Unicode.Number

/-!
# How far a lexeme goes

The first character of a text, and for the farewell the first few, say what the lexeme at its start
is; the characters after it say where it ends.

| starts with        | ends                                                              |
|--------------------|-------------------------------------------------------------------|
| a double quote     | after the next double quote, or else where the text ends          |
| an apostrophe      | after one character and another apostrophe, or else without it    |
| the farewell       | after the farewell                                                |
| a digit            | after the digits, and a point with digits behind it               |
| a letter or `_`    | after the letters, numbers and `_` that follow                    |
| two characters that spell a mark | after both                                          |
| anything else      | after one character                                               |

* **`extent_pos`**: a text that is not empty starts with a lexeme that is not empty.
-/

namespace KindLex.Lexeme

/-- How many characters at the start of a text have a property. -/
def run (p : Char → Bool) (text : List Char) : Nat :=
  (text.takeWhile p).length

/-- The characters that may begin a word. -/
def isWordStart (c : Char) : Bool :=
  c == '_' || Unicode.isAlphabetic16 c

/-- The characters that may continue a word. -/
def isWordPart (c : Char) : Bool :=
  isWordStart c || Unicode.isNumber16 c

/-- The characters of the farewell, the one keyword that is no word. -/
def farewell : List Char :=
  Keyword.adiosTriste.spelling.toList

/-- How far a string goes, its opening quote included, when `rest` follows that quote. -/
def stringExtent (rest : List Char) : Nat :=
  if '"' ∈ rest then run (· != '"') rest + 2 else rest.length + 1

/-- How far a character literal goes, its opening apostrophe included, when `rest` follows that
    apostrophe: a character and an apostrophe, or else one character, if there is one. -/
def characterExtent : List Char → Nat
  | []             => 1
  | _ :: '\'' :: _ => 3
  | _ :: _         => 2

/-- How far a number goes: its digits, and a point with the digits behind it if there are any. -/
def numberExtent (text : List Char) : Nat :=
  let whole := run Char.isDigit text
  match text.drop whole with
  | '.' :: rest =>
      let fraction := run Char.isDigit rest
      if fraction = 0 then whole else whole + 1 + fraction
  | _ => whole

/-- How far a mark goes: two characters if they spell one, and otherwise one character, whether it
    spells a mark or not. -/
def markExtent (text : List Char) : Nat :=
  if (Punctuation.ofSpelling? (text.take 2)).isSome then (text.take 2).length else 1

/-- How many characters belong to the lexeme at the start of a text. -/
def extent : List Char → Nat
  | []           => 0
  | '"' :: rest  => stringExtent rest
  | '\'' :: rest => characterExtent rest
  | c :: rest    =>
      if farewell.isPrefixOf (c :: rest) then farewell.length
      else if c.isDigit then numberExtent (c :: rest)
      else if isWordStart c then run isWordPart (c :: rest)
      else markExtent (c :: rest)

-- ── Every lexeme has a character ────────────────────────────────────────────────────

theorem run_pos {p : Char → Bool} {c : Char} {rest : List Char} (h : p c = true) :
    0 < run p (c :: rest) := by
  simp [run, h]

theorem stringExtent_pos (rest : List Char) : 0 < stringExtent rest := by
  rw [stringExtent]
  split <;> omega

theorem characterExtent_pos (rest : List Char) : 0 < characterExtent rest := by
  unfold characterExtent
  split <;> omega

theorem numberExtent_pos {c : Char} {rest : List Char} (h : c.isDigit = true) :
    0 < numberExtent (c :: rest) := by
  have hwhole : 0 < run Char.isDigit (c :: rest) := run_pos h
  rw [numberExtent]
  dsimp only
  split
  · split <;> omega
  · exact hwhole

theorem markExtent_pos (c : Char) (rest : List Char) : 0 < markExtent (c :: rest) := by
  rw [markExtent]
  split
  · simp
  · exact Nat.one_pos

/-- A text that is not empty starts with a lexeme that is not empty. -/
theorem extent_pos {text : List Char} (h : text ≠ []) : 0 < extent text := by
  match text with
  | [] => exact absurd rfl h
  | c :: rest =>
      unfold extent
      split
      · contradiction
      · exact stringExtent_pos _
      · exact characterExtent_pos _
      · rename_i heq
        obtain ⟨rfl, rfl⟩ := List.cons.inj heq
        split
        · decide
        · split
          · exact numberExtent_pos ‹_›
          · split
            · exact run_pos (by simp [isWordPart, *])
            · exact markExtent_pos _ _

end KindLex.Lexeme
