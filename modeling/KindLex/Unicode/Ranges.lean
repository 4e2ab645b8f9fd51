/-!
# Ranges of code points

A property of characters is a table of inclusive ranges in ascending order.  The search gives up at
the first range that ends at or above the code point, so a character low in the table is found
early; as the ranges ascend, this misses nothing:

* **`Ranges.holds_iff`**: `holds` is membership in one of the ranges.
-/

namespace KindLex.Unicode

/-- No range is empty, the first begins at `bound` or above, and each other one begins above the
    end of the one before it. -/
def ascendsFrom : (bound : Nat) → List (Nat × Nat) → Bool
  | _,     []               => true
  | bound, (lo, hi) :: rest => bound ≤ lo && lo ≤ hi && ascendsFrom (hi + 1) rest

/-- Inclusive ranges of code points, in ascending order. -/
structure Ranges where
  pairs   : List (Nat × Nat)
  ascends : ascendsFrom 0 pairs = true

/-- A code point is in a table if it is in one of its ranges. -/
instance : Membership Nat Ranges :=
  ⟨fun table n => ∃ pair ∈ table.pairs, pair.1 ≤ n ∧ n ≤ pair.2⟩

namespace Ranges

/-- Whether some range holds `n`, for ranges in ascending order. -/
def search : List (Nat × Nat) → Nat → Bool
  | [],               _ => false
  | (lo, hi) :: rest, n => if n ≤ hi then decide (lo ≤ n) else search rest n

/-- Whether a code point is in a table. -/
def holds (table : Ranges) (n : Nat) : Bool :=
  search table.pairs n

/-- Ascending ranges lie at or above their bound. -/
theorem bound_le_of_ascendsFrom {bound : Nat} {pairs : List (Nat × Nat)}
    (h : ascendsFrom bound pairs = true) : ∀ pair ∈ pairs, bound ≤ pair.1 := by
  induction pairs generalizing bound with
  | nil => intro pair hpair; exact nomatch hpair
  | cons pair pairs ih =>
      obtain ⟨lo, hi⟩ := pair
      simp only [ascendsFrom, Bool.and_eq_true, decide_eq_true_eq] at h
      obtain ⟨⟨hlo, hhi⟩, hrest⟩ := h
      intro other hother
      rcases List.mem_cons.mp hother with rfl | hother
      · exact hlo
      · have := ih hrest other hother
        omega

/-- Among ascending ranges the search misses none. -/
theorem search_iff {bound : Nat} {pairs : List (Nat × Nat)} (h : ascendsFrom bound pairs = true)
    (n : Nat) : search pairs n = true ↔ ∃ pair ∈ pairs, pair.1 ≤ n ∧ n ≤ pair.2 := by
  induction pairs generalizing bound with
  | nil => simp [search]
  | cons pair pairs ih =>
      obtain ⟨lo, hi⟩ := pair
      simp only [ascendsFrom, Bool.and_eq_true, decide_eq_true_eq] at h
      obtain ⟨-, hrest⟩ := h
      by_cases hn : n ≤ hi
      · rw [search, if_pos hn, decide_eq_true_eq]
        constructor
        · intro hlo
          exact ⟨(lo, hi), List.mem_cons_self, hlo, hn⟩
        · rintro ⟨other, hother, hmem⟩
          rcases List.mem_cons.mp hother with rfl | hother
          · exact hmem.1
          · have := bound_le_of_ascendsFrom hrest other hother
            omega
      · rw [search, if_neg hn, ih hrest]
        constructor
        · rintro ⟨other, hother, hmem⟩
          exact ⟨other, List.mem_cons_of_mem _ hother, hmem⟩
        · rintro ⟨other, hother, hmem⟩
          rcases List.mem_cons.mp hother with rfl | hother
          · exact absurd hmem.2 hn
          · exact ⟨other, hother, hmem⟩

/-- **`holds` is membership in one of the ranges.** -/
theorem holds_iff (table : Ranges) (n : Nat) : table.holds n = true ↔ n ∈ table :=
  search_iff table.ascends n

end Ranges

end KindLex.Unicode
