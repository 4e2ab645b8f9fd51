import KindLex.Proofs.RealText
import KindLex.Proofs.Text.Lines
import KindLex.Table

/-!
# Lines and columns of a table

A row shows the kind of a token, its lexeme and its value, brought to the widths of their columns.
The lexeme and the value are shown as they are, so that a row has as many line feeds as they have;
and a column is as wide as its widest text.  Here the line feeds of a row are told from its lexeme,
and the places of its columns from its kind and the length of its lexeme.

* **`tokenize_table`**: the lines of a table, and when there is one for every token.
* **`table_of_openLine`**: a string over two lines makes a row of three.
* **`tokenize_columns`**: where the columns of a row are, and when they are where they are elsewhere.
* **`columns_of_upperIdentifier`**: one kind is wider than the column of kinds.
-/

namespace KindLex

open Lexeme

/-- The lines of the table of a source. -/
structure TableLaw (source : String) : Prop where
  /-- They are the lines of the rows, from row to row. -/
  lines : Text.lines (Table.text (tokenize source)).toList =
    (tokenize source).flatMap fun t => Text.lines ((Table.row t).toList ++ ['\n'])
  /-- A row has a line, and two more for every line feed of its lexeme, which its value repeats; but
      what is said of a string without its end repeats nothing. -/
  row : ∀ t ∈ tokenize source, (Text.lines ((Table.row t).toList ++ ['\n'])).length =
    1 + (if t.error? = some .unterminatedString then 1 else 2) * t.lexeme.toList.count '\n'
  /-- Only a string or a character, ended or not, has a line feed in its lexeme. -/
  spanning : ∀ t ∈ tokenize source, '\n' ∈ t.lexeme.toList →
    ∃ c ∈ t.lexeme.toList.head?, c = '"' ∨ c = '\''
  /-- The rows are lines, one for every token, exactly if no lexeme has a line feed. -/
  oneEach : Text.lines (Table.text (tokenize source)).toList =
      ((tokenize source).map fun t => (Table.row t).toList ++ ['\n']) ↔
    ∀ t ∈ tokenize source, '\n' ∉ t.lexeme.toList
  /-- And then only are there as many line feeds as tokens. -/
  count : (Table.text (tokenize source)).toList.count '\n' = (tokenize source).length ↔
    ∀ t ∈ tokenize source, '\n' ∉ t.lexeme.toList

/-- The row of a token is its kind, its lexeme and its value, with spaces behind each of them; the
    lexeme and the value are at these places. -/
def Columns (t : Token) (lexemeAt valueAt : Nat) : Prop :=
  ∃ a b c, (Table.row t).toList =
      (Table.kindText t.kind).toList ++ List.replicate (a + 1) ' ' ++
      t.lexeme.toList ++ List.replicate (b + 1) ' ' ++
      (Table.literalText t.literal).toList ++ List.replicate c ' ' ∧
    lexemeAt = (Table.kindText t.kind).toList.length + (a + 1) ∧
    valueAt = lexemeAt + t.lexeme.toList.length + (b + 1)

/-- The columns of the table of a source. -/
structure ColumnLaw (source : String) : Prop where
  /-- The columns are in their places, but for a lexeme that is too long for its own. -/
  aligned : ∀ t ∈ tokenize source, t.kind ≠ .upperIdentifier →
    Columns t 21 (max 37 (22 + t.lexeme.toList.length))
  /-- For one kind they are two places further on. -/
  shifted : ∀ t ∈ tokenize source, t.kind = .upperIdentifier →
    Columns t 23 (max 39 (24 + t.lexeme.toList.length))
  /-- In all rows but those a lexeme is found where its column is. -/
  lexeme : ∀ t ∈ tokenize source,
    (t.lexeme.toList <+: (Table.row t).toList.drop 21 ↔ t.kind ≠ .upperIdentifier)
  /-- And so is the value, behind a lexeme that its column has room for. -/
  value : ∀ t ∈ tokenize source, t.lexeme.toList.length ≤ 15 →
    ((Table.literalText t.literal).toList <+: (Table.row t).toList.drop 37 ↔
      t.kind ≠ .upperIdentifier)

-- ── Line feeds in values ────────────────────────────────────────────────────────────

theorem newline_not_mem_of_isDigit {digits : List Char} (h : ∀ c ∈ digits, c.isDigit = true) :
    '\n' ∉ digits := by
  intro hmem
  exact absurd (h _ hmem) (by decide)

theorem newline_not_mem_of_pointed {whole fraction : List Char}
    (hwhole : ∀ c ∈ whole, c.isDigit = true) (hfraction : ∀ c ∈ fraction, c.isDigit = true) :
    '\n' ∉ whole ++ '.' :: fraction := by
  simp [newline_not_mem_of_isDigit hwhole, newline_not_mem_of_isDigit hfraction]

/-- An integer is written without line feeds. -/
theorem newline_not_mem_repr (n : Int) : '\n' ∉ n.repr.toList := by
  have hnat (m : Nat) : '\n' ∉ m.repr.toList := by
    rw [Nat.repr_eq_ofList_toDigits, String.toList_ofList]
    exact newline_not_mem_of_isDigit fun c hc =>
      Nat.isDigit_of_mem_toDigits (by decide) (by decide) hc
  rw [Int.repr_eq_if]
  split
  · exact hnat _
  · rw [String.toList_append, List.mem_append, not_or]
    exact ⟨by decide, hnat _⟩

/-- A real is written without line feeds. -/
theorem Shown.newline_not_mem {x : Binary64} {text : String} (h : Shown x text) :
    '\n' ∉ text.toList := by
  by_cases hplain : Binary64.IsPlain x.magnitude
  · obtain ⟨whole, fraction, htext, hnumber⟩ := h.hasFraction.mpr hplain
    rw [htext]
    exact newline_not_mem_of_pointed hnumber.isDigit_whole hnumber.isDigit_fraction
  · cases hinfinite : x.isInfinite with
    | true =>
        rw [h.infinite hinfinite]
        decide
    | false =>
        obtain ⟨first, others, power, hfirst, hothers, -, htext, -⟩ :=
          h.hasExponent hinfinite hplain
        have hne : first ≠ '\n' := by
          rintro rfl
          exact absurd hfirst (by decide)
        rw [htext]
        split <;> simp [hne.symm, newline_not_mem_repr, newline_not_mem_of_isDigit hothers]

theorem newline_not_mem_ofDecimal (d : Decimal) : '\n' ∉ (Binary64.ofDecimal d).text.toList :=
  (Shown.of_unsigned (Binary64.isNaN_ofDecimal d) (Binary64.isNegative_ofDecimal d)).newline_not_mem

/-- A name has no line feed in it. -/
theorem Lexeme.Name.newline_not_mem {word : List Char} (h : Name word) : '\n' ∉ word := by
  obtain ⟨hstart, htail⟩ := h
  intro hmem
  rcases List.mem_cons.mp hmem with rfl | hmem
  · exact absurd hstart (by simp [Capital, Small])
  · exact absurd (htail _ hmem) (by simp [Capital, Small])

/-- A mark is written without line feeds. -/
theorem newline_not_mem_spelling (sign : Punctuation) : '\n' ∉ sign.spelling.toList := by
  have key : ∀ sign ∈ Punctuation.all, '\n' ∉ sign.spelling.toList := by decide +kernel
  exact key sign (Punctuation.mem_all sign)

/-- Words around a text add no line feeds to it. -/
theorem count_around {before after : String} (hbefore : '\n' ∉ before.toList)
    (hafter : '\n' ∉ after.toList) (text : String) :
    (before ++ text ++ after).toList.count '\n' = text.toList.count '\n' := by
  rw [String.toList_append, String.toList_append, List.count_append, List.count_append,
    List.count_eq_zero.mpr hbefore, List.count_eq_zero.mpr hafter, Nat.zero_add, Nat.add_zero]

/-- A message has the line feeds of the text that it names. -/
theorem LexicalError.count_message {cause : LexicalError} {text : String}
    (h : cause.payload? = some text) :
    cause.message.toList.count '\n' = text.toList.count '\n' := by
  cases cause with
  | unterminatedString => contradiction
  | malformedCharacter named | invalidNumber named =>
      obtain rfl : named = text := Option.some.inj h
      rw [← String.append_empty (s := message _)]
      exact count_around (by decide) (by decide) named
  | invalidIdentifier named =>
      obtain rfl : named = text := Option.some.inj h
      dsimp only [message]
      refine count_around ?_ ?_ named <;> decide
  | unexpectedCharacter c =>
      obtain rfl : c.toString = text := Option.some.inj h
      dsimp only [message]
      refine count_around ?_ ?_ c.toString <;> decide

namespace Table

/-- **What is shown of a lexeme repeats its line feeds**, unless it is a string without its end. -/
theorem count_literalText {lexeme : List Char} {reading : Reading} (h : Spells lexeme reading) :
    (literalText reading.literal).toList.count '\n' =
      if reading = .error .unterminatedString then 0 else lexeme.count '\n' := by
  have hnone (hlexeme : '\n' ∉ lexeme) : "null".toList.count '\n' = lexeme.count '\n' := by
    rw [List.count_eq_zero.mpr hlexeme]
    decide
  have herror {cause : LexicalError} (hcause : cause.payload? = some (String.ofList lexeme)) :
      cause.message.toList.count '\n' = lexeme.count '\n' := by
    rw [cause.count_message hcause, String.toList_ofList]
  cases h with
  | endOfText => rfl
  | mark sign => exact hnone (newline_not_mem_spelling sign)
  | keyword word =>
      have key : ∀ word ∈ Keyword.all, '\n' ∉ word.spelling.toList := by decide +kernel
      exact hnone (key word (Keyword.mem_all word))
  | truth value => cases value <;> decide
  | upperIdentifier h => exact hnone h.name.newline_not_mem
  | identifier h => exact hnone h.newline_not_mem
  | integer hne hdigits =>
      have htext := List.count_eq_zero.mpr (newline_not_mem_repr (Decimal.ofDigits lexeme))
      exact htext.trans (List.count_eq_zero.mpr (newline_not_mem_of_isDigit hdigits)).symm
  | real hne hwhole hne' hfraction =>
      have htext (x : Binary64) : literalText (Reading.real x).literal = x.text := rfl
      have hreal (x : Binary64) : Reading.real x ≠ .error .unterminatedString := nofun
      rw [htext, if_neg (hreal _), List.count_eq_zero.mpr (newline_not_mem_ofDecimal _),
        List.count_eq_zero.mpr (newline_not_mem_of_pointed hwhole hfraction)]
  | @string content =>
      show (String.ofList content).toList.count '\n' = _
      simp
  | character c =>
      show c.toString.toList.count '\n' = _
      simp [List.count_cons]
  | openString => exact (List.count_eq_zero.mpr (by decide)).trans (if_pos rfl).symm
  | foreign | outOfRange | openCharacter | letter | stray => exact herror rfl

-- ── Rows ────────────────────────────────────────────────────────────────────────────

/-- A text and the spaces that bring it to a width. -/
theorem toList_padRight (width : Nat) (text : String) :
    (Text.padRight width text).toList =
      text.toList ++ List.replicate (width - text.toList.length) ' ' :=
  String.toList_ofList

/-- A row, part by part. -/
theorem toList_row (t : Token) :
    (row t).toList = (kindText t.kind).toList ++
      List.replicate (kindWidth - (kindText t.kind).toList.length + 1) ' ' ++ t.lexeme.toList ++
      List.replicate (lexemeWidth - t.lexeme.toList.length + 1) ' ' ++
      (literalText t.literal).toList ++
      List.replicate (literalWidth - (literalText t.literal).toList.length) ' ' := by
  have hspace : " ".toList = [' '] := rfl
  simp only [row, String.toList_append, toList_padRight, hspace, List.replicate_succ',
    List.append_assoc]

theorem newline_not_mem_kindText (kind : Kind) : '\n' ∉ (kindText kind).toList := by
  have key : ∀ kind ∈ Kind.all, '\n' ∉ (kindText kind).toList := by decide +kernel
  exact key kind (Kind.mem_all kind)

/-- The line feeds of a row are those of the lexeme and of the value. -/
theorem count_row (t : Token) :
    (row t).toList.count '\n' =
      t.lexeme.toList.count '\n' + (literalText t.literal).toList.count '\n' := by
  have hspaces (n : Nat) : (List.replicate n ' ').count '\n' = 0 := by
    simp [List.count_replicate]
  rw [toList_row]
  simp only [List.count_append, hspaces, List.count_eq_zero.mpr (newline_not_mem_kindText t.kind),
    Nat.zero_add, Nat.add_zero]

/-- **The line feeds of the row of a token** are those of its lexeme, once or twice. -/
theorem count_row_of_mem {source : String} {t : Token} (h : t ∈ tokenize source) :
    (row t).toList.count '\n' =
      (if t.error? = some .unterminatedString then 1 else 2) * t.lexeme.toList.count '\n' := by
  obtain ⟨hspells, -, hliteral⟩ := spells_of_mem h
  have hopen : t.error? = some .unterminatedString ↔
      Reading.ofLexeme t.lexeme.toList = .error .unterminatedString := by
    rw [Token.error?_eq_some_iff, hliteral]
    cases Reading.ofLexeme t.lexeme.toList <;> simp [Reading.literal]
  rw [count_row, hliteral, count_literalText hspells]
  by_cases hcase : t.error? = some .unterminatedString
  · rw [if_pos hcase, if_pos (hopen.mp hcase), Nat.one_mul, Nat.add_zero]
  · rw [if_neg hcase, if_neg (hopen.not.mp hcase), Nat.two_mul]

/-- A row with its line feed ends a line. -/
theorem complete_row (t : Token) :
    Text.Complete (· == '\n') ((row t).toList ++ ['\n']) := by
  intro c hc
  rw [List.getLast?_concat] at hc
  obtain rfl := Option.some.inj hc
  rfl

/-- A row has a line more than it has line feeds. -/
theorem length_lines_row (t : Token) :
    (Text.lines ((row t).toList ++ ['\n'])).length = 1 + (row t).toList.count '\n' := by
  rw [Text.lines, Text.length_splitAfter (complete_row t), List.countP_append, Nat.add_comm]
  rfl

/-- A row without line feeds is a line. -/
theorem lines_row_of_count {t : Token} (h : (row t).toList.count '\n' = 0) :
    Text.lines ((row t).toList ++ ['\n']) = [(row t).toList ++ ['\n']] := by
  refine Text.splitAfter_separator_append (fun c hc => ?_) rfl []
  exact beq_false_of_ne fun heq => List.count_eq_zero.mp h (heq ▸ hc)

/-- The table, row by row. -/
theorem toList_text (tokens : List Token) :
    (text tokens).toList = tokens.flatMap fun t => (row t).toList ++ ['\n'] := by
  have hfeed : "\n".toList = ['\n'] := rfl
  rw [text, lines, String.toList_join, List.flatMap_map]
  simp only [String.toList_append, hfeed]

/-- **The lines of a table are those of its rows.** -/
theorem lines_text (tokens : List Token) :
    Text.lines (text tokens).toList =
      tokens.flatMap fun t => Text.lines ((row t).toList ++ ['\n']) := by
  rw [toList_text]
  induction tokens with
  | nil => rfl
  | cons t tokens ih =>
      rw [List.flatMap_cons, List.flatMap_cons, Text.lines, Text.splitAfter_append (complete_row t)]
      exact congrArg _ ih

/-- A table has a line for every row, and one for every line feed in a row. -/
theorem length_lines_text (tokens : List Token) :
    (Text.lines (text tokens).toList).length =
      tokens.length + (tokens.map fun t => (row t).toList.count '\n').sum := by
  rw [lines_text]
  induction tokens with
  | nil => rfl
  | cons t tokens ih =>
      rw [List.flatMap_cons, List.length_append, length_lines_row, ih, List.length_cons,
        List.map_cons, List.sum_cons]
      omega

/-- And as many line feeds as lines. -/
theorem count_text (tokens : List Token) :
    (text tokens).toList.count '\n' = (Text.lines (text tokens).toList).length := by
  rw [Text.lines, Text.length_splitAfter]
  · rfl
  · intro c hc
    rw [toList_text] at hc
    rcases List.eq_nil_or_concat tokens with rfl | ⟨front, t, rfl⟩
    · contradiction
    · rw [List.concat_eq_append, List.flatMap_append, List.flatMap_singleton, ← List.append_assoc,
        List.getLast?_concat] at hc
      obtain rfl := Option.some.inj hc
      rfl

end Table

-- ── The lines of a table ────────────────────────────────────────────────────────────

/-- Only what opens with a quote or an apostrophe goes on over a line feed. -/
theorem Stands.exists_quote_of_newline_mem {lexeme rest : List Char} (h : Stands lexeme rest)
    (hmem : '\n' ∈ lexeme) : ∃ c ∈ lexeme.head?, c = '"' ∨ c = '\'' := by
  obtain ⟨hbegins, hcut⟩ := h
  cases hcut with
  | string | openString => exact ⟨'"', rfl, Or.inl rfl⟩
  | character | openCharacter | apostrophe => exact ⟨'\'', rfl, Or.inr rfl⟩
  | farewell => exact absurd hmem (by decide)
  | integer hne hdigits => exact absurd hmem (newline_not_mem_of_isDigit hdigits)
  | real hne hwhole hne' hfraction =>
      exact absurd hmem (newline_not_mem_of_pointed hwhole hfraction)
  | word hstart htail =>
      exfalso
      rcases List.mem_cons.mp hmem with rfl | hmem
      · exact absurd hstart (by decide)
      · exact absurd (htail _ hmem) (by decide)
  | @mark sign => exact absurd hmem (newline_not_mem_spelling sign)
  | @stray c =>
      obtain rfl := List.mem_singleton.mp hmem
      exact absurd (by decide) (hbegins.blank '\n' rfl)

theorem exists_quote_of_newline_mem {source : String} {t : Token} (ht : t ∈ tokenize source)
    (hmem : '\n' ∈ t.lexeme.toList) : ∃ c ∈ t.lexeme.toList.head?, c = '"' ∨ c = '\'' := by
  have hkind : t.kind ≠ .eof := by
    intro heof
    obtain ⟨hspells, hsame, -⟩ := spells_of_mem ht
    rw [(kind_eq_eof_iff hspells).mp (hsame ▸ heof)] at hmem
    contradiction
  obtain ⟨hstands, -⟩ := (scans_tokenize source).standsAlone t (mem_dropLast_tokenize ht hkind)
  exact hstands.exists_quote_of_newline_mem hmem

/-- **The lines of the table of a source.** -/
theorem tokenize_table (source : String) : TableLaw source := by
  have hnone : ∀ t ∈ tokenize source,
      ((Table.row t).toList.count '\n' = 0 ↔ '\n' ∉ t.lexeme.toList) := by
    intro t ht
    rw [Table.count_row_of_mem ht, Nat.mul_eq_zero, List.count_eq_zero]
    split <;> simp
  have hlength : (Text.lines (Table.text (tokenize source)).toList).length =
      (tokenize source).length ↔ ∀ t ∈ tokenize source, '\n' ∉ t.lexeme.toList := by
    rw [Table.length_lines_text, Nat.add_eq_left, List.sum_eq_zero_iff, List.forall_mem_map]
    exact forall₂_congr hnone
  refine ⟨Table.lines_text _, ?_, fun t => exists_quote_of_newline_mem, ?_, ?_⟩
  · intro t ht
    rw [Table.length_lines_row, Table.count_row_of_mem ht]
  · constructor
    · intro h
      rw [← hlength, h, List.length_map]
    · intro h
      rw [Table.lines_text, ← List.flatMap_pure_eq_map]
      exact List.flatMap_congr fun t ht => Table.lines_row_of_count ((hnone t ht).mpr (h t ht))
  · rw [Table.count_text]
    exact hlength

/-- **A string over two lines makes a row of three**, two lines of the table too many. -/
theorem table_of_openLine :
    Table.text (tokenize "\"a\nb\"") =
        "String (4000)        \"a\nb\"           a\nb       \nEOF (0)                              null      \n" ∧
      (tokenize "\"a\nb\"").length = 2 := by
  decide +kernel

-- ── The columns of a row ────────────────────────────────────────────────────────────

section Columns

variable {t : Token} {lexemeAt valueAt : Nat} (h : Columns t lexemeAt valueAt)
include h

/-- A lexeme is found where its column is. -/
theorem Columns.lexeme_found : t.lexeme.toList <+: (Table.row t).toList.drop lexemeAt := by
  obtain ⟨a, b, c, hrow, rfl, -⟩ := h
  have hfront : ((Table.kindText t.kind).toList ++ List.replicate (a + 1) ' ').length =
      (Table.kindText t.kind).toList.length + (a + 1) := by
    rw [List.length_append, List.length_replicate]
  rw [hrow, List.append_assoc, List.append_assoc, List.append_assoc, List.drop_left' hfront]
  exact List.prefix_append _ _

/-- A value is found behind a space. -/
theorem Columns.exists_drop_eq : ∃ rest,
    (Table.row t).toList.drop (valueAt - 1) =
      ' ' :: ((Table.literalText t.literal).toList ++ rest) := by
  obtain ⟨a, b, c, hrow, rfl, rfl⟩ := h
  have hfront : ((Table.kindText t.kind).toList ++ List.replicate (a + 1) ' ' ++
      t.lexeme.toList ++ List.replicate b ' ').length =
      (Table.kindText t.kind).toList.length + (a + 1) + t.lexeme.toList.length + (b + 1) - 1 := by
    simp only [List.length_append, List.length_replicate]
    omega
  refine ⟨List.replicate c ' ', ?_⟩
  rw [hrow, List.replicate_succ' (n := b), ← List.append_assoc, List.append_assoc,
    List.append_assoc, List.drop_left' hfront]
  rfl

end Columns

namespace Table

/-- One kind is too wide for the column of kinds. -/
theorem length_kindText_le {kind : Kind} (h : kind ≠ .upperIdentifier) :
    (kindText kind).toList.length ≤ kindWidth := by
  have key : ∀ kind ∈ Kind.all, kind ≠ .upperIdentifier →
      (kindText kind).toList.length ≤ kindWidth := by
    decide +kernel
  exact key kind (Kind.mem_all kind) h

/-- **The columns of a row** are as wide as their texts, and at least as wide as they are meant to
    be. -/
theorem columns_row (t : Token) :
    Columns t (max kindWidth (kindText t.kind).toList.length + 1)
      (max kindWidth (kindText t.kind).toList.length + 1 +
        max lexemeWidth t.lexeme.toList.length + 1) := by
  refine ⟨_, _, _, toList_row t, ?_, ?_⟩
  · omega
  · omega

theorem columns_of_ne {t : Token} (h : t.kind ≠ .upperIdentifier) :
    Columns t 21 (max 37 (22 + t.lexeme.toList.length)) := by
  have hkind := length_kindText_le h
  convert columns_row t using 1
  · rw [Nat.max_eq_left hkind]
    rfl
  · rw [Nat.max_eq_left hkind, kindWidth, lexemeWidth]
    omega

theorem columns_of_eq {t : Token} (h : t.kind = .upperIdentifier) :
    Columns t 23 (max 39 (24 + t.lexeme.toList.length)) := by
  have hkind : (kindText t.kind).toList.length = 22 := by
    rw [h]
    decide
  convert columns_row t using 1
  · rw [hkind]
    rfl
  · rw [hkind, kindWidth, lexemeWidth]
    omega

/-- The kind that is too wide fills its column with its number. -/
theorem exists_drop_of_eq {t : Token} (h : t.kind = .upperIdentifier) :
    ∃ rest, (row t).toList.drop 21 = ')' :: rest := by
  have hkind : (kindText .upperIdentifier).toList = "UpperIdentifier (1010".toList ++ [')'] := by
    decide
  rw [toList_row, h, hkind]
  exact ⟨_, rfl⟩

/-- **A lexeme is in the column of lexemes** unless its kind is the one that is too wide. -/
theorem lexeme_prefix_iff {source : String} {t : Token} (ht : t ∈ tokenize source) :
    t.lexeme.toList <+: (row t).toList.drop 21 ↔ t.kind ≠ .upperIdentifier := by
  constructor
  · rintro ⟨more, hprefix⟩ hkind
    -- where the lexeme should be is a bracket, and the lexeme starts with a capital
    obtain ⟨hspells, hsame, -⟩ := spells_of_mem ht
    obtain ⟨rest, hdrop⟩ := exists_drop_of_eq hkind
    have hupper := (kind_eq_upperIdentifier_iff hspells).mp (hsame ▸ hkind)
    rw [hdrop] at hprefix
    generalize t.lexeme.toList = lexeme at hprefix hupper
    obtain ⟨hstart, -⟩ := hupper
    obtain ⟨rfl, -⟩ := List.cons.inj hprefix
    exact absurd hstart (by simp [Capital])
  · intro hkind
    exact (columns_of_ne hkind).lexeme_found

/-- **A value is in the column of values** under the same condition, if the lexeme leaves it. -/
theorem literalText_prefix_iff {source : String} {t : Token} (ht : t ∈ tokenize source)
    (hlength : t.lexeme.toList.length ≤ 15) :
    (literalText t.literal).toList <+: (row t).toList.drop 37 ↔ t.kind ≠ .upperIdentifier := by
  constructor
  · rintro ⟨more, hprefix⟩ hkind
    -- the second character of the value would be the space in front of it
    have hcolumns := columns_of_eq hkind
    rw [Nat.max_eq_left (by omega)] at hcolumns
    obtain ⟨rest, hdrop⟩ := hcolumns.exists_drop_eq
    have hvalue : t.literal = none := by
      obtain ⟨-, hsame, hliteral⟩ := spells_of_mem ht
      rw [hliteral, literal_eq_none_iff, ← hsame]
      exact Or.inr (Or.inr (Or.inr (Or.inl hkind)))
    have hsecond := congrArg (List.drop 1) hprefix
    rw [List.drop_drop, hdrop, hvalue] at hsecond
    exact absurd (List.cons.inj hsecond).1 (by decide)
  · intro hkind
    have hcolumns := columns_of_ne hkind
    rw [Nat.max_eq_left (by omega)] at hcolumns
    obtain ⟨rest, hdrop⟩ := hcolumns.exists_drop_eq
    have hvalue := congrArg (List.drop 1) hdrop
    rw [List.drop_drop] at hvalue
    exact ⟨rest, hvalue.symm⟩

end Table

/-- **The columns of the table of a source.** -/
theorem tokenize_columns (source : String) : ColumnLaw source where
  aligned _ _ := Table.columns_of_ne
  shifted _ _ := Table.columns_of_eq
  lexeme _ := Table.lexeme_prefix_iff
  value _ := Table.literalText_prefix_iff

/-- **The name in capitals is two places further on** than the end of the text, which has its lexeme
    where the column is meant to be. -/
theorem columns_of_upperIdentifier :
    (tokenize "ABC").map Table.row =
        ["UpperIdentifier (1010) ABC             null      ",
          "EOF (0)                              null      "] ∧
      ¬ "ABC".toList <+: "UpperIdentifier (1010) ABC             null      ".toList.drop 21 := by
  decide +kernel

end KindLex
