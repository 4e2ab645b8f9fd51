/-!
# Look-up by a key

A list of values can be searched for the value with a given key.

* **`find?_key_eq_some_iff`**: where no two values share a key, the search inverts the key.
-/

namespace KindLex

/-- A search by a key that no two values share finds a value exactly for its own key. -/
theorem find?_key_eq_some_iff {α β : Type} [BEq β] [LawfulBEq β] {values : List α} {key : α → β}
    (hinj : ∀ a ∈ values, ∀ b ∈ values, key a = key b → a = b) {k : β} {a : α} :
    values.find? (fun x => key x == k) = some a ↔ a ∈ values ∧ key a = k := by
  constructor
  · intro h
    exact ⟨List.mem_of_find?_eq_some h, by simpa using List.find?_some h⟩
  · rintro ⟨ha, h⟩
    cases hfind : values.find? (fun x => key x == k) with
    | none => exact absurd h (by simpa using List.find?_eq_none.mp hfind a ha)
    | some found =>
        have hfound : key found = k := by simpa using List.find?_some hfind
        rw [hinj found (List.mem_of_find?_eq_some hfind) a ha (hfound.trans h.symm)]

end KindLex
