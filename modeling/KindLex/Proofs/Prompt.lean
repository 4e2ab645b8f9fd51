import KindLex.Prompt
import KindLex.Proofs.Text.Lines
import Mathlib.Data.List.Forall2

/-!
# What is read at a prompt

A reader gives a line at a time, and the reading stops at the first one that ends the program or is
no text.  Here the bytes of the reader are parted at that line, as if they had been cut into lines
before any was read, and what is read is told from the two parts.

* **`Reader.lines_readLine`**: a reader gives the lines of its bytes.
* **`exists_typed`**, **`Typed.unique`**: every input is parted, and in one way.
* **`readLinesFrom_append`**: what becomes of lines of a program.
* **`Typed.readFrom_eq_error`**, **`Typed.readFrom_eq_ok`**: what is read.
-/

namespace KindLex

open Text

-- ── Lines of a reader ───────────────────────────────────────────────────────────────

namespace Reader

/-- The line that is taken is the first one of all bytes, and behind it are the others. -/
theorem takeLine_spec (fillings : List Filling) :
    (takeLine fillings).1 = (splitAfter (· == 10) (Filling.allBytes fillings)).headD [] ∧
      splitAfter (· == 10) (Filling.allBytes (takeLine fillings).2) =
        (splitAfter (· == 10) (Filling.allBytes fillings)).tail := by
  fun_induction takeLine fillings with
  | case1 => exact ⟨rfl, rfl⟩
  | case2 filling later hnone line behind hline ih =>
      rw [hline] at ih
      obtain ⟨hhead, htail⟩ := ih
      have hopen : ∀ byte ∈ filling.bytes, (byte == 10) = false := by
        intro byte hbyte
        simpa using List.dropWhile_eq_nil_iff.mp hnone byte hbyte
      have hne : filling.bytes ≠ [] := List.cons_ne_nil _ _
      rw [Filling.allBytes_cons, splitAfter_append_of_open hne hopen]
      exact ⟨congrArg (filling.bytes ++ ·) hhead, htail⟩
  | case3 filling later feed rest hfeed =>
      have hopen : ∀ byte ∈ filling.bytes.takeWhile (· != 10), (byte == 10) = false := by
        intro byte hbyte
        simpa using List.mem_takeWhile_imp hbyte
      obtain rfl : feed = 10 := by
        have hne : filling.bytes.dropWhile (· != 10) ≠ [] := by simp [hfeed]
        simpa [hfeed] using List.head_dropWhile_not (· != 10) hne
      have hbytes : filling.bytes.takeWhile (· != 10) ++ 10 :: rest = filling.bytes := by
        rw [← hfeed, List.takeWhile_append_dropWhile]
      have hall : Filling.allBytes (filling :: later) =
          filling.bytes.takeWhile (· != 10) ++ 10 :: (rest ++ Filling.allBytes later) := by
        rw [Filling.allBytes_cons, ← List.cons_append, ← List.append_assoc, hbytes]
      rw [hall, splitAfter_separator_append hopen rfl, Filling.allBytes_ofBytes?_append]
      exact ⟨rfl, rfl⟩

/-- **A reader gives the lines of its bytes.** -/
theorem lines_readLine {reader : Reader} {line : List UInt8} {lines : List (List UInt8)}
    (h : Prompt.lines reader.bytes = line :: lines) :
    reader.readLine.1 = line ∧ Prompt.lines reader.readLine.2.bytes = lines := by
  obtain ⟨hhead, htail⟩ := takeLine_spec reader.fillings
  constructor
  · exact hhead.trans (congrArg (List.headD · []) h)
  · exact htail.trans (congrArg List.tail h)

/-- Where there are no lines left a reader gives none. -/
theorem readLine_of_lines_eq_nil {reader : Reader} (h : Prompt.lines reader.bytes = []) :
    reader.readLine.1 = [] :=
  (takeLine_spec reader.fillings).1.trans (congrArg (List.headD · []) h)

/-- Behind a line that is read are the bytes of the other lines. -/
theorem bytes_readLine (reader : Reader) :
    reader.readLine.2.bytes = (Prompt.lines reader.bytes).tail.flatten := by
  rw [← flatten_splitAfter (· == 10) reader.readLine.2.bytes]
  exact congrArg List.flatten (takeLine_spec reader.fillings).2

end Reader

namespace Prompt

/-- A line of a program: it is text, and does not end the program. -/
structure CodeLine (line : List UInt8) (text : String) : Prop where
  decoded : lineText? line = some text
  goesOn  : Text.trim text ≠ terminator

/-- `Typed input texts rest`: the lines of the input are lines of a program, with these texts, and
    behind them the rest, of which the first line ends the reading. -/
structure Typed (input : List UInt8) (texts : List String) (rest : List (List UInt8)) : Prop where
  parted : ∃ typed, lines input = typed ++ rest ∧ List.Forall₂ CodeLine typed texts
  stops  : ∀ line ∈ rest.head?, endsReading line = true

/-- The program with some lines: none if there are no lines. -/
def program (texts : List String) : Option String :=
  if texts.isEmpty then none else some (String.join (texts.map (· ++ "\n")))

theorem program_cons (text : String) (texts : List String) :
    program (text :: texts) = some (String.join ((text :: texts).map (· ++ "\n"))) :=
  rfl

-- ── Where the reading stops ─────────────────────────────────────────────────────────

theorem endsReading_eq_false_iff {line : List UInt8} :
    endsReading line = false ↔ ∃ text, CodeLine line text := by
  rw [endsReading]
  constructor
  · intro h
    split at h
    · contradiction
    · rename_i text htext
      exact ⟨text, htext, by simpa using h⟩
  · rintro ⟨text, htext, hgoesOn⟩
    rw [htext]
    simpa using hgoesOn

/-- Lines can be parted where the reading of them stops. -/
theorem exists_parted (lines : List (List UInt8)) :
    ∃ typed texts rest, lines = typed ++ rest ∧ List.Forall₂ CodeLine typed texts ∧
      ∀ line ∈ rest.head?, endsReading line = true := by
  induction lines with
  | nil => exact ⟨[], [], [], rfl, .nil, nofun⟩
  | cons line lines ih =>
      cases hends : endsReading line with
      | true =>
          refine ⟨[], [], line :: lines, rfl, .nil, fun other hother => ?_⟩
          obtain rfl : line = other := Option.some.inj hother
          exact hends
      | false =>
          obtain ⟨text, hline⟩ := endsReading_eq_false_iff.mp hends
          obtain ⟨typed, texts, rest, rfl, htyped, hstops⟩ := ih
          exact ⟨line :: typed, text :: texts, rest, rfl, .cons hline htyped, hstops⟩

/-- **Every input is parted** where the reading of it stops. -/
theorem exists_typed (input : List UInt8) : ∃ texts rest, Typed input texts rest := by
  obtain ⟨typed, texts, rest, hlines, htyped, hstops⟩ := exists_parted (lines input)
  exact ⟨texts, rest, ⟨typed, hlines, htyped⟩, hstops⟩

/-- Lines are parted in one way. -/
theorem parted_unique {typed typed' rest rest' : List (List UInt8)} {texts texts' : List String}
    (h : List.Forall₂ CodeLine typed texts) (hstops : ∀ line ∈ rest.head?, endsReading line = true)
    (h' : List.Forall₂ CodeLine typed' texts')
    (hstops' : ∀ line ∈ rest'.head?, endsReading line = true)
    (hsame : typed ++ rest = typed' ++ rest') : texts = texts' ∧ rest = rest' := by
  induction h generalizing typed' texts' with
  | nil =>
      cases h' with
      | nil => exact ⟨rfl, hsame⟩
      | @cons line _ _ _ hline _ =>
          have hhead : line ∈ rest.head? := by
            rw [← List.nil_append rest, hsame]
            rfl
          exact nomatch (hstops line hhead).symm.trans (endsReading_eq_false_iff.mpr ⟨_, hline⟩)
  | @cons line _ _ _ hline _ ih =>
      cases h' with
      | nil =>
          have hhead : line ∈ rest'.head? := by
            rw [← List.nil_append rest', ← hsame]
            rfl
          exact nomatch (hstops' line hhead).symm.trans (endsReading_eq_false_iff.mpr ⟨_, hline⟩)
      | cons hline' htyped' =>
          obtain ⟨rfl, htail⟩ := List.cons.inj hsame
          obtain ⟨rfl, hrest⟩ := ih htyped' htail
          obtain rfl := Option.some.inj (hline.decoded.symm.trans hline'.decoded)
          exact ⟨rfl, hrest⟩

/-- **An input is parted in one way.** -/
theorem Typed.unique {input : List UInt8} {texts texts' : List String}
    {rest rest' : List (List UInt8)} (h : Typed input texts rest) (h' : Typed input texts' rest') :
    texts = texts' ∧ rest = rest' := by
  obtain ⟨⟨typed, hlines, htyped⟩, hstops⟩ := h
  obtain ⟨⟨typed', hlines', htyped'⟩, hstops'⟩ := h'
  exact parted_unique htyped hstops htyped' hstops' (hlines.symm.trans hlines')

-- ── What is read ────────────────────────────────────────────────────────────────────

variable {reader : Reader} {code : String}

/-- What is done with the next line. -/
theorem readLinesFrom_cons {line : List UInt8} {later : List (List UInt8)}
    (hlines : lines reader.bytes = line :: later) :
    readLinesFrom code reader =
      match lineText? line with
      | none      => (.error .invalidText, reader.readLine.2)
      | some text =>
          if trim text = terminator then (.ok code, reader.readLine.2)
          else readLinesFrom (code ++ text ++ "\n") reader.readLine.2 := by
  have hne : line ≠ [] := ne_nil_of_mem_splitAfter (hlines ▸ List.mem_cons_self)
  obtain ⟨rfl, -⟩ := Reader.lines_readLine hlines
  rw [readLinesFrom]
  exact dif_neg hne

/-- **Lines of a program are read in front of what comes behind them.** -/
theorem readLinesFrom_append {typed : List (List UInt8)} {texts : List String}
    (h : List.Forall₂ CodeLine typed texts) {rest : List (List UInt8)}
    (hlines : lines reader.bytes = typed ++ rest) :
    ∃ behind, lines behind.bytes = rest ∧ readLinesFrom code reader =
      readLinesFrom (code ++ String.join (texts.map (· ++ "\n"))) behind := by
  induction h generalizing code reader with
  | nil => exact ⟨reader, hlines, by simp⟩
  | @cons line text typed texts hline _ ih =>
      obtain ⟨behind, hbehind, hread⟩ :=
        @ih reader.readLine.2 (code ++ text ++ "\n") (Reader.lines_readLine hlines).2
      refine ⟨behind, hbehind, ?_⟩
      rw [readLinesFrom_cons hlines, hline.decoded]
      dsimp only
      rw [if_neg hline.goesOn, hread, List.map_cons, String.join_cons]
      simp only [String.append_assoc]

/-- The reading fails at a line that is no text. -/
theorem readLinesFrom_invalid {line : List UInt8} {later : List (List UInt8)}
    (hlines : lines reader.bytes = line :: later) (h : lineText? line = none) :
    readLinesFrom code reader = (.error .invalidText, reader.readLine.2) := by
  rw [readLinesFrom_cons hlines, h]

/-- The program is read where a line ends it, or the input does. -/
theorem readLinesFrom_done
    (hstops : ∀ line ∈ (lines reader.bytes).head?, endsReading line = true)
    (htext : ∀ line ∈ (lines reader.bytes).head?, lineText? line ≠ none) :
    readLinesFrom code reader = (.ok code, reader.readLine.2) := by
  cases hlines : lines reader.bytes with
  | nil => rw [readLinesFrom, dif_pos (Reader.readLine_of_lines_eq_nil hlines)]
  | cons line later =>
      rw [hlines] at hstops htext
      have hends := hstops line rfl
      obtain ⟨text, hdecoded⟩ := Option.ne_none_iff_exists'.mp (htext line rfl)
      rw [endsReading, hdecoded] at hends
      rw [readLinesFrom_cons hlines, hdecoded]
      exact if_pos (by simpa using hends)

/-- The code of some lines is empty only if there is no line of it. -/
theorem program_eq (texts : List String) :
    program texts =
      let code := String.join (texts.map (· ++ "\n"))
      if code.isEmpty then none else some code := by
  cases texts with
  | nil => rfl
  | cons text texts =>
      have hne : (String.join ((text :: texts).map (· ++ "\n"))).isEmpty = false := by
        simp
      simp only [program_cons, hne, Bool.false_eq_true, if_false]

/-- Nothing is read from a reader where the reading stops at a line that is no text. -/
theorem Typed.readFrom_eq_error {texts : List String} {line : List UInt8}
    {rest : List (List UInt8)} (h : Typed reader.bytes texts (line :: rest))
    (hline : lineText? line = none) :
    (readFrom reader).1 = .error .invalidText ∧ (readFrom reader).2.bytes = rest.flatten := by
  obtain ⟨typed, hlines, htyped⟩ := h.parted
  obtain ⟨behind, hbehind, hread⟩ := @readLinesFrom_append reader "" _ _ htyped _ hlines
  rw [readFrom, hread, readLinesFrom_invalid hbehind hline]
  refine ⟨rfl, ?_⟩
  rw [Reader.bytes_readLine, hbehind, List.tail_cons]

/-- The program with the lines in front is read from a reader where the reading stops at a line that
    is text, or at the end. -/
theorem Typed.readFrom_eq_ok {texts : List String} {rest : List (List UInt8)}
    (h : Typed reader.bytes texts rest) (hrest : ∀ line ∈ rest.head?, lineText? line ≠ none) :
    (readFrom reader).1 = .ok (program texts) ∧
      (readFrom reader).2.bytes = rest.tail.flatten := by
  obtain ⟨typed, hlines, htyped⟩ := h.parted
  obtain ⟨behind, hbehind, hread⟩ := @readLinesFrom_append reader "" _ _ htyped _ hlines
  obtain rfl := hbehind
  rw [readFrom, hread, readLinesFrom_done h.stops hrest, String.empty_append, program_eq]
  exact ⟨rfl, Reader.bytes_readLine behind⟩

/-- **The program is read** of an input that is there as a whole. -/
theorem Typed.read_eq_ok {input : List UInt8} {texts : List String} {rest : List (List UInt8)}
    (h : Typed input texts rest) (hrest : ∀ line ∈ rest.head?, lineText? line ≠ none) :
    read input = .ok ⟨program texts, rest.tail.flatten.length⟩ := by
  rw [← Reader.bytes_ofBytes input] at h
  obtain ⟨hprogram, hbytes⟩ := h.readFrom_eq_ok hrest
  have hread : read input = (readFrom (.ofBytes input)).1.map fun program =>
      ⟨program, (readFrom (.ofBytes input)).2.bytes.length⟩ := rfl
  rw [hread, hprogram, hbytes]
  rfl

end Prompt

end KindLex
