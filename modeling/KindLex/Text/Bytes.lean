/-!
# Counting bytes

Places in a text are counted in the bytes of its encoding; a character takes one to four of them.

* **`takeBytes_byteCount_append`**: cutting a text at the end of a part gives back the part.
-/

namespace KindLex.Text

/-- How many bytes a piece of text occupies. -/
def byteCount (text : List Char) : Nat :=
  text.foldl (fun bytes c => bytes + c.utf8Size) 0

/-- The characters at the start of a text that lie within its first `n` bytes. -/
def takeBytes : (n : Nat) → List Char → List Char
  | _, []        => []
  | n, c :: rest => if n < c.utf8Size then [] else c :: takeBytes (n - c.utf8Size) rest

theorem foldl_utf8Size (text : List Char) (bytes : Nat) :
    text.foldl (fun bytes c => bytes + c.utf8Size) bytes = bytes + byteCount text := by
  induction text generalizing bytes with
  | nil => rfl
  | cons c text ih =>
      rw [byteCount, List.foldl_cons, List.foldl_cons, ih, ih, Nat.zero_add, Nat.add_assoc]

@[simp] theorem byteCount_nil : byteCount [] = 0 := rfl

@[simp] theorem byteCount_cons (c : Char) (rest : List Char) :
    byteCount (c :: rest) = c.utf8Size + byteCount rest := by
  rw [byteCount, List.foldl_cons, foldl_utf8Size, Nat.zero_add]

@[simp] theorem byteCount_append (text rest : List Char) :
    byteCount (text ++ rest) = byteCount text + byteCount rest := by
  rw [byteCount, List.foldl_append, foldl_utf8Size]
  rfl

/-- The bytes of a text are those of its encoding. -/
theorem utf8ByteSize_ofList (text : List Char) :
    (String.ofList text).utf8ByteSize = byteCount text := by
  induction text with
  | nil => rfl
  | cons c text ih =>
      rw [String.ofList_cons, String.utf8ByteSize_append, String.utf8ByteSize_singleton, ih,
        byteCount_cons]

theorem utf8ByteSize_eq_byteCount (text : String) : text.utf8ByteSize = byteCount text.toList := by
  rw [← utf8ByteSize_ofList, String.ofList_toList]

/-- A text has at least as many bytes as characters. -/
theorem length_le_byteCount (text : List Char) : text.length ≤ byteCount text := by
  induction text with
  | nil => exact Nat.le_refl 0
  | cons c text ih =>
      have hpos := Char.utf8Size_pos c
      rw [List.length_cons, byteCount_cons]
      omega

theorem takeBytes_zero (text : List Char) : takeBytes 0 text = [] := by
  cases text with
  | nil => rfl
  | cons c rest => rw [takeBytes, if_pos (Char.utf8Size_pos c)]

/-- Cutting a text at the end of a part gives back the part. -/
theorem takeBytes_byteCount_append (text rest : List Char) :
    takeBytes (byteCount text) (text ++ rest) = text := by
  induction text with
  | nil => exact takeBytes_zero rest
  | cons c text ih =>
      rw [byteCount_cons, List.cons_append, takeBytes, if_neg (by omega), Nat.add_sub_cancel_left,
        ih]

end KindLex.Text
