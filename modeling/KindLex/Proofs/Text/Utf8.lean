import KindLex.Proofs.Text.Lines
import KindLex.Text.Utf8

/-!
# Text written as UTF-8

The bytes of a text say where its lines end: a line feed is the one character in whose bytes the
byte of a line feed occurs.  So the bytes may be cut into lines before they are read as text.

* **`decode?_encode`**, **`eq_encode_of_decode?`**: the bytes of a text are read as the text, and
  no others are.
* **`splitAfter_encode`**: the lines of the bytes are the bytes of the lines.
-/

namespace KindLex.Text.Utf8

/-- The bytes of a text. -/
def encode (text : List Char) : List UInt8 :=
  text.flatMap String.utf8EncodeChar

theorem encode_cons (c : Char) (text : List Char) :
    encode (c :: text) = String.utf8EncodeChar c ++ encode text :=
  List.flatMap_cons

theorem toUTF8_eq_encode (text : String) : text.toUTF8.data.toList = encode text.toList := by
  rw [String.toUTF8_eq_toByteArray, ← String.utf8Encode_toList, List.utf8Encode,
    List.toList_data_toByteArray, encode]

/-- **The bytes of a text are read as the text.** -/
theorem decode?_encode (text : List Char) : decode? (encode text) = some (String.ofList text) := by
  have hbytes : (⟨(encode text).toArray⟩ : ByteArray) = (String.ofList text).toByteArray := by
    rw [String.toByteArray_ofList, List.utf8Encode, ← List.data_toByteArray, encode]
  rw [decode?, hbytes, String.fromUTF8?, dif_pos (String.ofList text).isValidUTF8]
  rfl

/-- Bytes that are read as a text are the bytes of that text. -/
theorem eq_encode_of_decode? {bytes : List UInt8} {text : String} (h : decode? bytes = some text) :
    bytes = encode text.toList := by
  rw [decode?, String.fromUTF8?] at h
  split at h
  · obtain rfl := Option.some.inj h
    rw [← toUTF8_eq_encode]
    rfl
  · contradiction

-- ── Lines of bytes ──────────────────────────────────────────────────────────────────

/-- A byte of a character is the number of the character, or has its highest bit set. -/
theorem toNat_of_mem {c : Char} {byte : UInt8} (h : byte ∈ String.utf8EncodeChar c) :
    byte.toNat = c.toNat ∨ 128 ≤ byte.toNat := by
  simp only [String.utf8EncodeChar, show c.val.toNat = c.toNat from rfl] at h
  split_ifs at h with hone htwo hthree
  · obtain rfl := List.mem_singleton.mp h
    left
    rw [UInt8.toNat_ofNat']
    omega
  · right
    rcases List.mem_pair.mp h with rfl | rfl <;> rw [UInt8.toNat_ofNat'] <;> omega
  · right
    simp only [List.mem_cons, List.not_mem_nil, or_false] at h
    rcases h with rfl | rfl | rfl <;> rw [UInt8.toNat_ofNat'] <;> omega
  · right
    simp only [List.mem_cons, List.not_mem_nil, or_false] at h
    rcases h with rfl | rfl | rfl | rfl <;> rw [UInt8.toNat_ofNat'] <;> omega

/-- The byte of a line feed occurs in the bytes of no other character. -/
theorem eq_newline_of_mem {c : Char} (h : 10 ∈ String.utf8EncodeChar c) : c = '\n' := by
  rcases toNat_of_mem h with hc | hhigh
  · exact Char.toNat_inj.mp hc.symm
  · exact absurd hhigh (by decide)

theorem utf8EncodeChar_ne_nil (c : Char) : String.utf8EncodeChar c ≠ [] := by
  intro hnil
  have hlength := String.length_utf8EncodeChar c
  rw [hnil] at hlength
  exact absurd hlength.symm (Nat.ne_of_gt (Char.utf8Size_pos c))

/-- A text has a line feed in front of its last character only if its bytes have one in front of
    their last byte. -/
theorem newline_not_mem_dropLast {text : List Char} (h : 10 ∉ (encode text).dropLast) :
    '\n' ∉ text.dropLast := by
  rcases List.eq_nil_or_concat text with rfl | ⟨front, c, rfl⟩
  · exact List.not_mem_nil
  · rw [List.concat_eq_append, List.dropLast_concat]
    intro hmem
    rw [List.concat_eq_append, encode, List.flatMap_append, List.flatMap_singleton,
      List.dropLast_append_of_ne_nil (utf8EncodeChar_ne_nil c)] at h
    exact h (List.mem_append_left _ (List.mem_flatMap.mpr ⟨'\n', hmem, by decide⟩))

/-- **The lines of the bytes are the bytes of the lines.** -/
theorem splitAfter_encode (text : List Char) :
    splitAfter (· == 10) (encode text) = (lines text).map encode := by
  induction text with
  | nil => rfl
  | cons c text ih =>
      rw [encode_cons]
      by_cases hc : c = '\n'
      · subst hc
        have hnewline : String.utf8EncodeChar '\n' = [10] := by decide
        rw [hnewline, List.singleton_append, splitAfter, ih]
        rfl
      · have hopen : ∀ byte ∈ String.utf8EncodeChar c, (byte == 10) = false := by
          intro byte hbyte
          exact beq_false_of_ne fun h => hc (eq_newline_of_mem (h ▸ hbyte))
        have hchar : ∀ d ∈ [c], (d == '\n') = false := by
          intro d hd
          obtain rfl := List.mem_singleton.mp hd
          exact beq_false_of_ne hc
        have hlines : lines (c :: text) = _ :: _ :=
          splitAfter_append_of_open (List.cons_ne_nil c []) hchar text
        rw [splitAfter_append_of_open (utf8EncodeChar_ne_nil c) hopen, ih, hlines, lines]
        cases splitAfter (· == '\n') text <;> simp [encode]

end KindLex.Text.Utf8
