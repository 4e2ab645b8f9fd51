/-!
# Columns

A text is brought to a least width by spaces on one side.  Width is the number of characters, and a
text that is wider than its column is left as it is.  What is brought to a width is written in
pieces, and every space is a piece of its own.

* **`join_padRightPieces`**, **`join_padLeftPieces`**: the pieces make up the text.
-/

namespace KindLex.Text

/-- A text with spaces behind it up to a width. -/
def padRight (width : Nat) (text : String) : String :=
  String.ofList (text.toList.rightpad width ' ')

/-- A text with spaces before it up to a width. -/
def padLeft (width : Nat) (text : String) : String :=
  String.ofList (text.toList.leftpad width ' ')

/-- The pieces in which a text with spaces behind it is written. -/
def padRightPieces (width : Nat) (text : String) : List String :=
  text :: List.replicate (width - text.toList.length) " "

/-- The pieces in which a text with spaces before it is written. -/
def padLeftPieces (width : Nat) (text : String) : List String :=
  List.replicate (width - text.toList.length) " " ++ [text]

/-- Spaces one at a time are spaces. -/
theorem toList_join_spaces (n : Nat) :
    (String.join (List.replicate n " ")).toList = List.replicate n ' ' := by
  induction n with
  | zero => rfl
  | succ n ih =>
      rw [List.replicate_succ, String.join_cons, String.toList_append, ih, List.replicate_succ]
      rfl

/-- The pieces of a text with spaces behind it make up that text. -/
theorem join_padRightPieces (width : Nat) (text : String) :
    String.join (padRightPieces width text) = padRight width text := by
  rw [← String.toList_inj, padRightPieces, String.join_cons, String.toList_append,
    toList_join_spaces, padRight, String.toList_ofList, List.rightpad]

/-- The pieces of a text with spaces before it make up that text. -/
theorem join_padLeftPieces (width : Nat) (text : String) :
    String.join (padLeftPieces width text) = padLeft width text := by
  have htext : String.join [text] = text := by
    rw [String.join_cons, String.join_nil, String.append_empty]
  rw [← String.toList_inj, padLeftPieces, String.join_append, htext, String.toList_append,
    toList_join_spaces, padLeft, String.toList_ofList, List.leftpad]

end KindLex.Text
