import KindLex.Lexeme.Extent

/-!
# Sorts of characters

The sorts that tell one lexeme from another by its first character do not overlap: digits begin no
word, and marks begin as no other lexeme does.
-/

namespace KindLex.Lexeme

theorem isWordStart_iff (c : Char) :
    isWordStart c = true ↔ c = '_' ∨ Unicode.isAlphabetic16 c = true := by
  simp [isWordStart]

theorem isWordPart_iff (c : Char) :
    isWordPart c = true ↔
      c = '_' ∨ Unicode.isAlphabetic16 c = true ∨ Unicode.isNumber16 c = true := by
  simp [isWordPart, isWordStart, or_assoc]

/-- No character below the capital letters is a letter. -/
theorem isAlphabetic16_of_lt {c : Char} (h : c.toNat < 'A'.toNat) :
    Unicode.isAlphabetic16 c = false := by
  have hle : c.toNat ≤ 0x5A := Nat.le_trans (Nat.le_of_lt h) (by decide)
  have hfirst : Unicode.isAlphabetic16 c = decide ('A'.toNat ≤ c.toNat) := if_pos hle
  rw [hfirst]
  exact decide_eq_false (Nat.not_le.mpr h)

/-- Digits begin no word. -/
theorem isWordStart_of_isDigit {c : Char} (h : c.isDigit = true) : isWordStart c = false := by
  have hle : c.toNat ≤ '9'.toNat := (Char.isDigit_iff_toNat.mp h).2
  have hletter := isAlphabetic16_of_lt (Nat.lt_of_le_of_lt hle (by decide))
  have hunderscore : c ≠ '_' := by
    rintro rfl
    exact absurd h (by decide)
  simp [isWordStart, hletter, hunderscore]

/-- No mark starts as a string, a character literal, a number or a word does. -/
theorem spelling_head (sign : Punctuation) :
    ∀ c ∈ sign.spelling.toList.head?,
      c ≠ '"' ∧ c ≠ '\'' ∧ c.isDigit = false ∧ isWordStart c = false := by
  have key : ∀ sign ∈ Punctuation.all, sign.spelling.toList.head?.all (fun c =>
      c != '"' && c != '\'' && !c.isDigit && !isWordStart c) = true := by
    decide +kernel
  intro c hc
  have hsign := key sign (Punctuation.mem_all sign)
  rw [Option.mem_def.mp hc] at hsign
  simpa [and_assoc] using hsign

end KindLex.Lexeme
