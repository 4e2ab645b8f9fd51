/-!
# UTF-8

The bytes of a text, and two readings of bytes as text.  The strict one accepts well-formed UTF-8
only.  The lenient one reads every sequence of bytes: where no character can be read, the longest
piece that begins like a character, or else one byte, gives the replacement character U+FFFD.
-/

namespace KindLex.Text.Utf8

/-- The bytes in which a text is written. -/
def bytes (text : String) : List UInt8 :=
  text.toUTF8.data.toList

theorem bytes_append (front behind : String) :
    bytes (front ++ behind) = bytes front ++ bytes behind := by
  rw [bytes, String.toUTF8_eq_toByteArray, String.toByteArray_append, ByteArray.data_append,
    Array.toList_append]
  rfl

theorem bytes_eq_nil_iff {text : String} : bytes text = [] ↔ text = "" := by
  rw [bytes, Array.toList_eq_nil_iff, ← String.toByteArray_inj, ByteArray.ext_iff]
  rfl

/-- What a byte above 127 that may begin a character says of the bytes behind it. -/
structure Lead where
  /-- How many bytes complete the character. -/
  following : Nat
  /-- The part of the character's number that the byte itself holds. -/
  high      : Nat
  /-- The least value of the first byte that follows. -/
  least     : Nat
  /-- The greatest value of the first byte that follows. -/
  greatest  : Nat

/-- The lead bytes.  The bounds on the byte that follows leave out numbers that have a shorter form,
    surrogates, and numbers above U+10FFFF. -/
def Lead.ofByte? (byte : UInt8) : Option Lead :=
  let b := byte.toNat
  if 0xC2 ≤ b ∧ b ≤ 0xDF then some ⟨1, b - 0xC0, 0x80, 0xBF⟩
  else if b = 0xE0 then some ⟨2, 0, 0xA0, 0xBF⟩
  else if b = 0xED then some ⟨2, 0xD, 0x80, 0x9F⟩
  else if 0xE1 ≤ b ∧ b ≤ 0xEF then some ⟨2, b - 0xE0, 0x80, 0xBF⟩
  else if b = 0xF0 then some ⟨3, 0, 0x90, 0xBF⟩
  else if 0xF1 ≤ b ∧ b ≤ 0xF3 then some ⟨3, b - 0xF0, 0x80, 0xBF⟩
  else if b = 0xF4 then some ⟨3, 4, 0x80, 0x8F⟩
  else none

/-- The bytes behind a lead byte that complete it, as far as they are there. -/
def Lead.completion (lead : Lead) : List UInt8 → List UInt8
  | []        => []
  | b :: rest =>
      if lead.least ≤ b.toNat ∧ b.toNat ≤ lead.greatest then
        b :: (rest.take (lead.following - 1)).takeWhile fun c =>
          0x80 ≤ c.toNat ∧ c.toNat ≤ 0xBF
      else []

/-- The character that stands for what cannot be read. -/
def replacement : Char := '\uFFFD'

/-- The character that a byte begins, and how many of the bytes behind it belong to it. -/
def readChar (byte : UInt8) (rest : List UInt8) : Char × Nat :=
  if byte.toNat < 0x80 then (Char.ofNat byte.toNat, 0)
  else
    match Lead.ofByte? byte with
    | none      => (replacement, 0)
    | some lead =>
        let completion := lead.completion rest
        if completion.length = lead.following then
          (Char.ofNat (completion.foldl (fun number b => 64 * number + b.toNat % 64) lead.high),
            completion.length)
        else (replacement, completion.length)

/-- The lenient reading. -/
def decodeLossy : List UInt8 → List Char
  | []           => []
  | byte :: rest =>
      let (c, used) := readChar byte rest
      c :: decodeLossy (rest.drop used)
termination_by bytes => bytes.length
decreasing_by
  simp only [List.length_drop, List.length_cons]
  omega

/-- The strict reading. -/
def decode? (bytes : List UInt8) : Option String :=
  String.fromUTF8? ⟨bytes.toArray⟩

end KindLex.Text.Utf8
