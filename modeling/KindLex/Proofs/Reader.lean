import KindLex.Proofs.BareFeeds

/-!
# What is read from a reader

A reader gives a line at a time, out of a buffer of any size, and the program is what comes before
the first line on which the reading stops.  The bytes of the reader are parted at that line, and
everything that is read, left behind or refused is told from the two parts.

* **`Typed.bytes_readFrom`**: what is left behind.
* **`Typed.readFrom_congr`**: what is read hangs on nothing behind the line that stops the reading.
* **`exists_readLaw`**, **`readFrom_buffered`**: what is read, and what is left behind.
-/

namespace KindLex

open Text

namespace Prompt

variable {reader : Reader}

-- ── What is left ────────────────────────────────────────────────────────────────────

/-- The reading stops at a line that is text, or at the end, or else at a line that is no text. -/
theorem text_or_refused (rest : List (List UInt8)) :
    (∀ line ∈ rest.head?, lineText? line ≠ none) ∨
      ∃ line later, rest = line :: later ∧ lineText? line = none := by
  cases rest with
  | nil => exact Or.inl nofun
  | cons line later =>
      cases hline : lineText? line with
      | none => exact Or.inr ⟨line, later, rfl, hline⟩
      | some text =>
          left
          rintro other ⟨⟩
          rw [hline]
          exact Option.some_ne_none text

/-- The bytes behind the line that ends the reading are left unread. -/
theorem Typed.bytes_readFrom {texts : List String} {rest : List (List UInt8)}
    (h : Typed reader.bytes texts rest) : (readFrom reader).2.bytes = rest.tail.flatten := by
  rcases text_or_refused rest with hrest | ⟨line, later, rfl, hline⟩
  · exact (h.readFrom_eq_ok hrest).2
  · exact (h.readFrom_eq_error hline).2

/-- What is read hangs on the lines up to the one that ends the reading. -/
theorem Typed.readFrom_congr {other : Reader} {texts : List String}
    {rest rest' : List (List UInt8)} (h : Typed reader.bytes texts rest)
    (h' : Typed other.bytes texts rest') (hsame : rest'.head? = rest.head?) :
    (readFrom other).1 = (readFrom reader).1 := by
  rcases text_or_refused rest with hrest | ⟨line, later, rfl, hline⟩
  · rw [(h.readFrom_eq_ok hrest).1, (h'.readFrom_eq_ok (hsame ▸ hrest)).1]
  · obtain ⟨later', rfl⟩ := List.head?_eq_some_iff.mp hsame
    rw [(h.readFrom_eq_error hline).1, (h'.readFrom_eq_error hline).1]

-- ── The law of the reading ──────────────────────────────────────────────────────────

/-- The reading stops at a line: it is no text, or it is `#` with white space around it. -/
def Stops (line : List UInt8) : Prop :=
  ∀ text, Utf8.decode? line = some text → trim text = "#"

/-- The line is text, and this is its body. -/
def HasBody (line : List UInt8) (body : List Char) : Prop :=
  ∃ text, Utf8.decode? line = some text ∧ Chomped text.toList body

/-- `ReadLaw typed rest reader`: of the lines of a reader, parted where the reading stops, those in
    front are read. -/
structure ReadLaw (typed rest : List (List UInt8)) (reader : Reader) : Prop where
  /-- Reading fails at a line that is no text. -/
  refused : ∀ line ∈ rest.head?, Utf8.decode? line = none →
    (readFrom reader).1 = .error .invalidText
  /-- Otherwise the program is made of the bodies of the lines, each with a line feed, so that it has
      as many line feeds as lines were typed; there is none if there is no line. -/
  read : (∀ line ∈ rest.head?, Utf8.decode? line ≠ none) →
    ∃ bodies code, List.Forall₂ HasBody typed bodies ∧
      (readFrom reader).1 = .ok (if typed.isEmpty then none else some code) ∧
      code.toList = bodies.flatMap (· ++ ['\n']) ∧ code.toList.count '\n' = typed.length
  /-- The bytes behind the line at which the reading stops are left, and no others. -/
  unread : (readFrom reader).2.bytes = rest.tail.flatten
  /-- Whatever else is behind that line, the same is read. -/
  unheard : ∀ line ∈ rest.head?, line.getLast? = some 10 → ∀ (other : Reader) later,
    other.bytes = typed.flatten ++ (line ++ later) →
      (readFrom other).1 = (readFrom reader).1 ∧ (readFrom other).2.bytes = later

theorem stops_iff {line : List UInt8} : Stops line ↔ endsReading line = true := by
  rw [endsReading, lineText?]
  cases hdecoded : Utf8.decode? line with
  | none => simp [Stops, hdecoded]
  | some text => simp [Stops, hdecoded, trim_chomp, terminator]

theorem CodeLine.not_stops {line : List UInt8} {text : String} (h : CodeLine line text) :
    ¬ Stops line := by
  rw [stops_iff, Bool.not_eq_true]
  exact endsReading_eq_false_iff.mpr ⟨text, h⟩

theorem lineText?_eq_none_iff {line : List UInt8} :
    lineText? line = none ↔ Utf8.decode? line = none :=
  Option.map_eq_none_iff

theorem CodeLine.hasBody {line : List UInt8} {text : String} (h : CodeLine line text) :
    HasBody line text.toList := by
  obtain ⟨decoded, hdecoded, rfl⟩ := Option.map_eq_some_iff.mp h.decoded
  refine ⟨decoded, hdecoded, ?_⟩
  rw [String.toList_ofList]
  exact chomped_chomp decoded.toList

/-- A body in a line has no line feed. -/
theorem HasBody.newline_not_mem {line : List UInt8} {body : List Char} (h : HasBody line body)
    {input : List UInt8} (hline : line ∈ lines input) : '\n' ∉ body := by
  obtain ⟨text, hdecoded, hchomped⟩ := h
  refine hchomped.newline_not_mem (Utf8.newline_not_mem_dropLast fun hmem => ?_)
  rw [← Utf8.eq_encode_of_decode? hdecoded] at hmem
  exact absurd (isSeparator_of_mem_dropLast hline hmem) (by decide)

/-- Bodies of lines, with a line feed each, have as many line feeds as there are lines. -/
theorem count_bodies {input : List UInt8} {typed : List (List UInt8)} {bodies : List (List Char)}
    (h : List.Forall₂ HasBody typed bodies) (htyped : ∀ line ∈ typed, line ∈ lines input) :
    (bodies.flatMap (· ++ ['\n'])).count '\n' = typed.length := by
  induction h with
  | nil => rfl
  | @cons line body typed bodies hbody _ ih =>
      have hfeed : '\n' ∉ body := hbody.newline_not_mem (htyped line List.mem_cons_self)
      rw [List.flatMap_cons, List.count_append, List.count_append, List.count_eq_zero.mpr hfeed,
        List.count_singleton_self, List.length_cons,
        ih fun other hother => htyped other (List.mem_cons_of_mem line hother)]
      omega

/-- The program with some lines, as it is put together. -/
theorem exists_program {typed : List (List UInt8)} {texts : List String}
    (h : List.Forall₂ CodeLine typed texts) :
    ∃ code, program texts = (if typed.isEmpty then none else some code) ∧
      code.toList = (texts.map String.toList).flatMap (· ++ ['\n']) := by
  refine ⟨String.join (texts.map (· ++ "\n")), ?_, ?_⟩
  · cases h <;> rfl
  · rw [String.toList_join, List.flatMap_map, List.flatMap_map]
    simp only [String.toList_append]
    rfl

/-- **Reading from a reader**: its lines are parted at the first one at which the reading stops. -/
theorem exists_readLaw (reader : Reader) :
    ∃ typed rest, lines reader.bytes = typed ++ rest ∧ (∀ line ∈ typed, ¬ Stops line) ∧
      (∀ line ∈ rest.head?, Stops line) ∧ ReadLaw typed rest reader := by
  obtain ⟨texts, rest, h⟩ := exists_typed reader.bytes
  obtain ⟨typed, hlines, htyped⟩ := h.parted
  have hgoesOn : ∀ line ∈ typed, ¬ Stops line :=
    ((List.forall₂_and_left _ _).mp (htyped.imp fun line text hline =>
      ⟨hline.not_stops, hline⟩)).1
  have hbodies : List.Forall₂ HasBody typed (texts.map String.toList) :=
    List.forall₂_map_right_iff.mpr (htyped.imp fun line text hline => hline.hasBody)
  refine ⟨typed, rest, hlines, hgoesOn, fun line hline => stops_iff.mpr (h.stops line hline),
    ?_, ?_, h.bytes_readFrom, ?_⟩
  · intro line hhead hline
    obtain ⟨later, rfl⟩ := List.head?_eq_some_iff.mp hhead
    exact (h.readFrom_eq_error (lineText?_eq_none_iff.mpr hline)).1
  · intro hrest
    obtain ⟨code, hprogram, hcode⟩ := exists_program htyped
    refine ⟨_, code, hbodies, ?_, hcode, ?_⟩
    · rw [← hprogram]
      exact (h.readFrom_eq_ok fun line hline =>
        lineText?_eq_none_iff.not.mpr (hrest line hline)).1
    · rw [hcode]
      exact count_bodies hbodies fun line hline => hlines ▸ List.mem_append_left rest hline
  · intro line hhead hfeed other later hother
    obtain ⟨others, rfl⟩ := List.head?_eq_some_iff.mp hhead
    have hends : ∀ byte ∈ line.getLast?, (byte == 10) = true := by simp [hfeed]
    have hsame : lines other.bytes = typed ++ line :: lines later := by
      rw [hother]
      exact splitAfter_flatten_append hlines hends later
    have hother' : Typed other.bytes texts (line :: lines later) :=
      ⟨⟨typed, hsame, htyped⟩, h.stops⟩
    refine ⟨h.readFrom_congr hother' rfl, ?_⟩
    rw [hother'.bytes_readFrom, List.tail_cons]
    exact flatten_splitAfter _ later

/-- **What is read through a buffer**, of any size. -/
theorem readFrom_buffered (more : Nat) (input : List UInt8) :
    ∃ typed rest, splitAfter (· == 10) input = typed ++ rest ∧ (∀ line ∈ typed, ¬ Stops line) ∧
      (∀ line ∈ rest.head?, Stops line) ∧ ReadLaw typed rest (Reader.buffered more input) := by
  obtain ⟨typed, rest, hlines, hgoesOn, hstops, hlaw⟩ := exists_readLaw (.buffered more input)
  rw [Reader.bytes_buffered] at hlines
  exact ⟨typed, rest, hlines, hgoesOn, hstops, hlaw⟩

end Prompt

end KindLex
