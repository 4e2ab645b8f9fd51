/-!
# Cutting sequences

The two ways in which this library cuts texts and byte strings: after every separator, and at the
last item that does not have a property.

* **`flatten_splitAfter`**: cutting after separators loses nothing.
-/

namespace KindLex.Text

variable {α : Type}

/-- The pieces of a sequence, each up to and including a separator; a rest without a separator is a
    piece of its own. -/
def splitAfter (isSeparator : α → Bool) : List α → List (List α)
  | []        => []
  | a :: rest =>
      if isSeparator a then [a] :: splitAfter isSeparator rest
      else
        match splitAfter isSeparator rest with
        | []              => [[a]]
        | piece :: others => (a :: piece) :: others

/-- Cutting after separators loses nothing. -/
theorem flatten_splitAfter (isSeparator : α → Bool) (items : List α) :
    (splitAfter isSeparator items).flatten = items := by
  induction items with
  | nil => rfl
  | cons a rest ih =>
      unfold splitAfter
      split
      · simp [ih]
      · split
        · rename_i hnone
          simp [hnone] at ih
          simp [← ih]
        · rename_i hsome
          rw [hsome] at ih
          simp [← ih]

/-- A sequence without the items at its end that have a property. -/
def dropEndWhile (p : α → Bool) (items : List α) : List α :=
  (items.reverse.dropWhile p).reverse

end KindLex.Text
