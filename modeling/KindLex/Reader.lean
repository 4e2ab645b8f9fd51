/-!
# Readers of bytes

A reader hands out the bytes of an input as they come into its buffer.  Where one filling of the
buffer ends and the next one starts says nothing about the input: a line may begin in one filling
and end in a later one, and a filling may hold many lines.

* **`bytes_buffered`**: a buffer of any size hands out the whole input.
* **`append_bytes_readLine`**: a line that is read is taken from the start of what is ahead.
-/

namespace KindLex

/-- What comes into a buffer at once: one byte at least. -/
structure Filling where
  first  : UInt8
  others : List UInt8
  deriving DecidableEq

namespace Filling

/-- The bytes of a filling. -/
def bytes (filling : Filling) : List UInt8 :=
  filling.first :: filling.others

/-- The filling with some bytes; where there are none there is no filling. -/
def ofBytes? : List UInt8 → Option Filling
  | []            => none
  | first :: rest => some ⟨first, rest⟩

/-- The fillings of a buffer that has room for one byte and `more` others. -/
def cut (more : Nat) : List UInt8 → List Filling
  | []            => []
  | first :: rest => ⟨first, rest.take more⟩ :: cut more (rest.drop more)
termination_by bytes => bytes.length
decreasing_by
  simp only [List.length_drop, List.length_cons]
  omega

/-- All bytes of some fillings. -/
def allBytes (fillings : List Filling) : List UInt8 :=
  fillings.flatMap bytes

@[simp] theorem allBytes_nil : allBytes [] = [] := rfl

@[simp] theorem allBytes_cons (filling : Filling) (later : List Filling) :
    allBytes (filling :: later) = filling.bytes ++ allBytes later :=
  List.flatMap_cons

/-- Bytes that are left in a buffer come before those of the fillings after it. -/
theorem allBytes_ofBytes?_append (rest : List UInt8) (later : List Filling) :
    allBytes ((ofBytes? rest).toList ++ later) = rest ++ allBytes later := by
  cases rest <;> rfl

theorem allBytes_cut (more : Nat) (input : List UInt8) : allBytes (cut more input) = input := by
  fun_induction cut more input with
  | case1 => rfl
  | case2 first rest ih =>
      rw [allBytes_cons, ih, bytes, List.cons_append, List.take_append_drop]

end Filling

/-- A reader: the fillings of its buffer that are not read yet. -/
structure Reader where
  fillings : List Filling
  deriving DecidableEq

namespace Reader

/-- The bytes that are not read yet. -/
def bytes (reader : Reader) : List UInt8 :=
  Filling.allBytes reader.fillings

/-- The reader of an input with a buffer that has room for one byte and `more` others. -/
def buffered (more : Nat) (input : List UInt8) : Reader :=
  ⟨Filling.cut more input⟩

/-- The reader of an input that is in its buffer as a whole. -/
def ofBytes (input : List UInt8) : Reader :=
  ⟨(Filling.ofBytes? input).toList⟩

/-- The bytes of some fillings up to the first line feed, which belongs to them, and the fillings
    behind it.  If there is no line feed in a filling, the line goes on in the next one. -/
def takeLine : List Filling → List UInt8 × List Filling
  | []               => ([], [])
  | filling :: later =>
      match filling.bytes.dropWhile (· != 10) with
      | []           =>
          let (line, behind) := takeLine later
          (filling.bytes ++ line, behind)
      | feed :: rest =>
          (filling.bytes.takeWhile (· != 10) ++ [feed], (Filling.ofBytes? rest).toList ++ later)

/-- The next line, with the line feed that ends it, and the reader behind it; the line is empty
    where there are no more bytes. -/
def readLine (reader : Reader) : List UInt8 × Reader :=
  let (line, behind) := takeLine reader.fillings
  (line, ⟨behind⟩)

/-- A buffer of any size hands out the whole input. -/
theorem bytes_buffered (more : Nat) (input : List UInt8) : (buffered more input).bytes = input :=
  Filling.allBytes_cut more input

/-- And so does a buffer that holds it as a whole. -/
theorem bytes_ofBytes (input : List UInt8) : (ofBytes input).bytes = input := by
  cases input with
  | nil => rfl
  | cons first rest => exact List.append_nil _

theorem append_allBytes_takeLine (fillings : List Filling) :
    (takeLine fillings).1 ++ Filling.allBytes (takeLine fillings).2 =
      Filling.allBytes fillings := by
  fun_induction takeLine fillings with
  | case1 => rfl
  | case2 filling later hnone line behind hline ih =>
      rw [hline] at ih
      rw [Filling.allBytes_cons, ← ih, List.append_assoc]
  | case3 filling later feed rest hfeed =>
      have hbytes : filling.bytes.takeWhile (· != 10) ++ filling.bytes.dropWhile (· != 10) =
          filling.bytes :=
        List.takeWhile_append_dropWhile
      rw [hfeed] at hbytes
      rw [Filling.allBytes_ofBytes?_append, Filling.allBytes_cons, List.append_assoc,
        List.singleton_append, ← List.cons_append, ← List.append_assoc, hbytes]

/-- A line that is read is taken from the start of what is ahead. -/
theorem append_bytes_readLine (reader : Reader) :
    reader.readLine.1 ++ reader.readLine.2.bytes = reader.bytes :=
  append_allBytes_takeLine reader.fillings

/-- A line that is not empty leaves less to be read. -/
theorem length_bytes_readLine_lt {reader : Reader} (h : reader.readLine.1 ≠ []) :
    reader.readLine.2.bytes.length < reader.bytes.length := by
  have hpos := List.length_pos_iff.mpr h
  rw [← reader.append_bytes_readLine, List.length_append]
  omega

end Reader

end KindLex
