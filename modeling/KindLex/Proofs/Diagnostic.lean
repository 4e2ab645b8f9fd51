import KindLex.Proofs.LineLaw
import KindLex.Proofs.Sink
import KindLex.Proofs.Table
import KindLex.Proofs.Text.LineEnds
import Mathlib.Data.Nat.Digits.Lemmas

/-!
# The lines of a diagnostic

A diagnostic is five texts, each with a line feed behind it, and the gutter of the last three is as
wide as the number of the line, however long that is.  They are five lines unless one of them has a
line feed of its own, which only the name of the source and what is wrong can have; and of all that
can be wrong in a source only one thing does, an apostrophe in front of a line feed.

* **`length_toString`**: how long a number is.
* **`isTrimmed_trim`**: what is trimmed off a text.
* **`count_message_of_spells`**: which errors have a line feed in their message.
* **`tokenize_diagnostic`**: the diagnostic of any error of any source.
* **`diagnostic_of_newline`**: an apostrophe in front of a line feed makes six lines.
-/

namespace KindLex

open Lexeme Sink

/-- A text without the white space at its ends. -/
structure IsTrimmed (text shown : List Char) : Prop where
  cut  : ∃ before after, text = before ++ shown ++ after ∧
    ∀ c ∈ before ++ after, Unicode.isWhiteSpace c = true
  head : ∀ c ∈ shown.head?, Unicode.isWhiteSpace c = false
  last : ∀ c ∈ shown.getLast?, Unicode.isWhiteSpace c = false

/-- How many digits a number has. -/
def digitCount (n : Nat) : Nat :=
  (Nat.digits 10 n).length

/-- The five texts that show an error. -/
structure BlockTexts (source file : String) (t : Token) (cause : LexicalError)
    (first second third fourth fifth : List Char) : Prop where
  error : t.error? = some cause
  /-- What it is, and what may help in brackets if anything may. -/
  heading : first = "Error: ".toList ++ cause.name.toList ++
    match cause.tip? with
    | some tip => " (".toList ++ tip.toList ++ ")".toList
    | none     => []
  place : second = "-> ".toList ++ file.toList ++ ":".toList ++ (toString t.line).toList
  gutter : third = List.replicate (digitCount t.line + 1) ' ' ++ "|".toList
  /-- The line of the source, or nothing if it has no such line. -/
  excerpt : ∃ shown, fourth = (toString t.line).toList ++ " | ".toList ++ shown ∧
    IsTrimmed ((Text.line? source t.line).getD "").toList shown
  message : fifth = List.replicate (digitCount t.line + 1) ' ' ++ "| ".toList ++
    cause.message.toList
  /-- The bar of the gutter is in one column, however long the number is. -/
  aligned : ∀ text ∈ [third, fourth, fifth], text.idxOf? '|' = some (digitCount t.line + 1)

/-- The lines that show an error of a source. -/
structure BlockLaw (source file : String) (t : Token) (cause : LexicalError)
    (first second third fourth fifth : List Char) : Prop
    extends BlockTexts source file t cause first second third fourth fifth where
  /-- The five texts are what is written, with a line feed each. -/
  written : Diagnostic.write source file (.empty none) t =
    (⟨none,
      (String.ofList ([first, second, third, fourth, fifth].flatMap (· ++ ['\n']))).toUTF8⟩, none)
  /-- There is no other line feed but those of the name of the source, and the one in the message
      about an apostrophe in front of a line feed. -/
  feeds : ([first, second, third, fourth, fifth].flatMap (· ++ ['\n'])).count '\n' =
    5 + file.toList.count '\n' + if t.lexeme = "'\n" then 1 else 0
  /-- The five texts are the lines of what is written exactly if it is not about that. -/
  fiveLines : '\n' ∉ file.toList →
    (Text.lines ([first, second, third, fourth, fifth].flatMap (· ++ ['\n'])) =
      [first, second, third, fourth, fifth].map (· ++ ['\n']) ↔ t.lexeme ≠ "'\n")
  /-- And if it is, the message ends the fifth line, and an empty one without a gutter follows. -/
  sixLines : '\n' ∉ file.toList → t.lexeme = "'\n" → ∃ front, fifth = front ++ ['\n'] ∧
    Text.lines ([first, second, third, fourth, fifth].flatMap (· ++ ['\n'])) =
      [first, second, third, fourth, front, []].map (· ++ ['\n'])

-- ── Numbers ─────────────────────────────────────────────────────────────────────────

/-- **A number is written with as many characters as it has digits.** -/
theorem length_toString {n : Nat} (h : n ≠ 0) : (toString n).toList.length = digitCount n := by
  have hdigits : (toString n).toList = Nat.toDigits 10 n := Nat.toList_repr
  rw [hdigits, digitCount, Nat.length_digits 10 n (by decide) h]
  have hle : (Nat.toDigits 10 n).length ≤ Nat.log 10 n + 1 :=
    (Nat.length_toDigits_le_iff (by decide) (Nat.succ_pos _)).mpr
      (Nat.lt_pow_succ_log_self (by decide) n)
  refine Nat.le_antisymm hle (Nat.lt_of_not_le fun hshort => ?_)
  have hpos : 0 < Nat.log 10 n := Nat.lt_of_lt_of_le Nat.length_toDigits_pos hshort
  have hlt := (Nat.length_toDigits_le_iff (by decide) hpos).mp hshort
  exact absurd (Nat.pow_log_le_self 10 h) (Nat.not_le.mpr hlt)

theorem isDigit_of_mem_toString {n : Nat} {c : Char} (h : c ∈ (toString n).toList) :
    c.isDigit = true := by
  have hdigits : (toString n).toList = Nat.toDigits 10 n := Nat.toList_repr
  rw [hdigits] at h
  exact Nat.isDigit_of_mem_toDigits (by decide) (by decide) h

-- ── What is trimmed ─────────────────────────────────────────────────────────────────

/-- **What is trimmed off a text** is the white space at its ends. -/
theorem isTrimmed_trim (text : String) : IsTrimmed text.toList (Text.trim text).toList := by
  have hends : ∀ items : List Char,
      items.rdropWhile Unicode.isWhiteSpace ++ items.rtakeWhile Unicode.isWhiteSpace = items :=
    fun items => List.rdropWhile_append_rtakeWhile
  have htrim : (Text.trim text).toList =
      (text.toList.dropWhile Unicode.isWhiteSpace).rdropWhile Unicode.isWhiteSpace :=
    String.toList_ofList
  rw [htrim]
  constructor
  · refine ⟨text.toList.takeWhile Unicode.isWhiteSpace,
      (text.toList.dropWhile Unicode.isWhiteSpace).rtakeWhile Unicode.isWhiteSpace, ?_, ?_⟩
    · rw [List.append_assoc, hends]
      exact List.takeWhile_append_dropWhile.symm
    · intro c hc
      rcases List.mem_append.mp hc with hc | hc
      · exact List.mem_takeWhile_imp hc
      · exact List.mem_rtakeWhile_imp hc
  · intro c hc
    -- it is also the first character of the text without the white space in front
    have hhead := List.head?_dropWhile_not Unicode.isWhiteSpace text.toList
    rw [← hends (text.toList.dropWhile _), List.head?_append, Option.mem_def.mp hc] at hhead
    exact hhead
  · intro c hc
    obtain ⟨hne, rfl⟩ := List.mem_getLast?_eq_getLast hc
    exact Bool.not_eq_true _ ▸ List.rdropWhile_last_not _ _ hne

-- ── Line feeds of errors ────────────────────────────────────────────────────────────

section Errors

variable {lexeme : List Char} {cause : LexicalError} (h : Spells lexeme (.error cause))
include h

/-- **Which errors have a line feed in their message**, among those whose lexeme has one only behind
    a quote or an apostrophe: an apostrophe in front of a line feed. -/
theorem count_message_of_spells
    (hopens : '\n' ∈ lexeme → ∃ c ∈ lexeme.head?, c = '"' ∨ c = '\'') :
    cause.message.toList.count '\n' = if lexeme = ['\'', '\n'] then 1 else 0 := by
  have hcount := Table.count_literalText h
  have hmessage : Table.literalText (Reading.error cause).literal = cause.message := rfl
  rw [hmessage] at hcount
  have hfree (hfree : '\n' ∉ lexeme) :
      lexeme.count '\n' = if lexeme = ['\'', '\n'] then 1 else 0 := by
    rw [if_neg, List.count_eq_zero.mpr hfree]
    rintro rfl
    exact hfree (by decide)
  cases h with
  | openString => exact hcount.trans (by simp)
  | @openCharacter rest hshort =>
      rw [hcount, if_neg nofun]
      cases rest with
      | nil => rfl
      | cons c rest =>
          obtain rfl := List.length_eq_zero_iff.mp (Nat.le_zero.mp (Nat.le_of_succ_le_succ hshort))
          by_cases hc : c = '\n' <;> simp [hc]
  | outOfRange hne hdigits =>
      rw [hcount, if_neg nofun]
      exact hfree (newline_not_mem_of_isDigit hdigits)
  | foreign hstart =>
      rw [hcount, if_neg nofun]
      refine hfree fun hmem => ?_
      obtain ⟨c, hc, rfl | rfl⟩ := hopens hmem
      · obtain rfl := Option.some.inj hc
        exact absurd hstart (by decide)
      · obtain rfl := Option.some.inj hc
        exact absurd hstart (by decide)
  | letter hstray | stray hstray =>
      rw [hcount, if_neg nofun]
      refine hfree fun hmem => ?_
      obtain ⟨c, hc, heither⟩ := hopens hmem
      obtain rfl := Option.some.inj hc
      exact heither.elim hstray.quote hstray.apostrophe

/-- What may help has no line feed: it names a text only if that is a number. -/
theorem newline_not_mem_tip {tip : String} (htip : cause.tip? = some tip) : '\n' ∉ tip.toList := by
  have hnumber : ∀ text, cause = .invalidNumber text → text.toList.count '\n' = 0 := by
    rintro text rfl
    cases h with
    | outOfRange hne hdigits =>
        rw [String.toList_ofList]
        exact List.count_eq_zero.mpr (newline_not_mem_of_isDigit hdigits)
  rw [LexicalError.tip?.eq_def] at htip
  split at htip
  case h_7 => exact nomatch htip
  case h_8 text =>
    obtain rfl := Option.some.inj htip
    refine List.count_eq_zero.mp ((count_around ?_ ?_ text).trans (hnumber text rfl))
    · decide
    · decide
  all_goals
    obtain rfl := Option.some.inj htip
    decide

end Errors

theorem newline_not_mem_name (cause : LexicalError) : '\n' ∉ cause.name.toList := by
  cases cause <;> (dsimp only [LexicalError.name]; decide)

-- ── Texts with a line feed each ─────────────────────────────────────────────────────

/-- **Texts with a line feed behind each of them are lines** exactly if they have no other. -/
theorem Text.lines_flatMap_iff {texts : List (List Char)} :
    lines (texts.flatMap (· ++ ['\n'])) = texts.map (· ++ ['\n']) ↔
      ∀ text ∈ texts, '\n' ∉ text := by
  constructor
  · intro hlines text htext hmem
    have hline : text ++ ['\n'] ∈ lines (texts.flatMap (· ++ ['\n'])) :=
      hlines ▸ List.mem_map.mpr ⟨text, htext, rfl⟩
    have hfeed : '\n' ∈ (text ++ ['\n']).dropLast := by
      rw [List.dropLast_concat]
      exact hmem
    exact absurd (isSeparator_of_mem_dropLast hline hfeed) (by decide)
  · intro hfree
    induction texts with
    | nil => rfl
    | cons text texts ih =>
        have hopen : ∀ c ∈ text, (c == '\n') = false := fun c hc =>
          beq_false_of_ne fun heq => hfree text List.mem_cons_self (heq ▸ hc)
        have hothers := ih fun other hother => hfree other (List.mem_cons_of_mem text hother)
        rw [List.flatMap_cons, List.append_assoc, List.map_cons, ← hothers]
        exact splitAfter_separator_append hopen rfl _

/-- If the last of them ends in a line feed, an empty line is behind it. -/
theorem Text.lines_flatMap_feed {texts : List (List Char)} {front : List Char}
    (h : ∀ text ∈ texts, '\n' ∉ text) (hfront : '\n' ∉ front) :
    lines ((texts ++ [front ++ ['\n']]).flatMap (· ++ ['\n'])) =
      (texts ++ [front, []]).map (· ++ ['\n']) := by
  have hsame : (texts ++ [front ++ ['\n']]).flatMap (· ++ ['\n']) =
      (texts ++ [front, []]).flatMap (· ++ ['\n']) := by
    simp only [List.flatMap_append, List.flatMap_cons, List.flatMap_nil, List.append_nil,
      List.nil_append, List.append_assoc]
  rw [hsame, lines_flatMap_iff]
  intro text htext
  rcases List.mem_append.mp htext with htext | htext
  · exact h text htext
  · rcases List.mem_cons.mp htext with rfl | htext
    · exact hfront
    · obtain rfl := List.mem_singleton.mp htext
      exact nofun

/-- Texts with a line feed behind each of them have one for each, and their own. -/
theorem Text.count_flatMap_feeds (texts : List (List Char)) :
    (texts.flatMap (· ++ ['\n'])).count '\n' =
      texts.length + (texts.map (List.count '\n')).sum := by
  induction texts with
  | nil => rfl
  | cons text texts ih =>
      rw [List.flatMap_cons, List.count_append, List.count_append, ih, List.count_singleton_self,
        List.length_cons, List.map_cons, List.sum_cons]
      omega

/-- Where a character is first. -/
theorem Text.idxOf?_append_cons {front : List Char} {c : Char} (h : c ∉ front)
    (rest : List Char) : (front ++ c :: rest).idxOf? c = some front.length := by
  induction front with
  | nil => rw [List.nil_append, List.idxOf?_cons, if_pos (beq_self_eq_true c), List.length_nil]
  | cons d front ih =>
      have hd : ¬ (d == c) = true := fun heq => h (eq_of_beq heq ▸ List.mem_cons_self)
      rw [List.cons_append, List.idxOf?_cons, if_neg hd,
        ih fun hmem => h (List.mem_cons_of_mem d hmem), Option.map_some, List.length_cons]

-- ── The five texts ──────────────────────────────────────────────────────────────────

namespace Diagnostic

/-- The gutter is as wide as the number of the line. -/
theorem toList_gutter {n : Nat} (h : n ≠ 0) :
    (gutter n).toList = List.replicate (digitCount n + 1) ' ' ++ ['|'] := by
  have hwidth : (toString n).length + 2 - "|".toList.length = digitCount n + 1 := by
    rw [← String.length_toList, length_toString h]
    rfl
  rw [gutter, Text.padLeft, String.toList_ofList, List.leftpad, hwidth]
  rfl

/-- What is shown of the source is in one line. -/
theorem newline_not_mem_excerpt (source : String) (n : Nat) :
    '\n' ∉ (excerpt source n).toList := by
  obtain ⟨⟨before, after, htext, -⟩, -, -⟩ :=
    isTrimmed_trim ((Text.line? source n).getD "")
  have hfree : '\n' ∉ ((Text.line? source n).getD "").toList := by
    cases hline : Text.line? source n with
    | none => exact nofun
    | some line => exact (Text.clean_of_line? hline).1
  intro hmem
  rw [htext] at hfree
  exact hfree (List.mem_append_left after (List.mem_append_right before hmem))

/-- What is written of an error is its five texts, with a line feed each. -/
theorem toList_join_lines {t : Token} {cause : LexicalError} (h : t.error? = some cause)
    (source file : String) :
    (String.join (lines t source file)).toList =
      ((block cause t.line source file).map String.toList).flatMap (· ++ ['\n']) := by
  have hfeed : "\n".toList = ['\n'] := rfl
  rw [lines, h, String.toList_join, List.flatMap_map, List.flatMap_map]
  simp only [String.toList_append, hfeed]

theorem toList_heading (cause : LexicalError) :
    (heading cause).toList = "Error: ".toList ++ cause.name.toList ++
      match cause.tip? with
      | some tip => " (".toList ++ tip.toList ++ ")".toList
      | none     => [] := by
  rw [heading]
  cases cause.tip? with
  | none => rw [String.toList_append, List.append_nil]
  | some tip => simp only [String.toList_append, List.append_assoc]

/-- The number of a line has no line feed. -/
theorem count_number (n : Nat) : (toString n).toList.count '\n' = 0 :=
  List.count_eq_zero.mpr (newline_not_mem_of_isDigit fun _ => isDigit_of_mem_toString)

/-- What an error is and what may help have no line feed. -/
theorem count_heading {lexeme : List Char} {cause : LexicalError}
    (h : Spells lexeme (.error cause)) : (heading cause).toList.count '\n' = 0 := by
  have hname := List.count_eq_zero.mpr (newline_not_mem_name cause)
  rw [toList_heading, List.count_append, List.count_append, hname]
  cases htip : cause.tip? with
  | none => rfl
  | some tip =>
      have htext := List.count_eq_zero.mpr (newline_not_mem_tip h htip)
      show _ + (" (".toList ++ tip.toList ++ ")".toList).count '\n' = 0
      rw [List.count_append, List.count_append, htext]
      rfl

/-- Where an error is has the line feeds of the name of the source. -/
theorem count_place (file : String) (n : Nat) :
    ("-> " ++ file ++ ":" ++ toString n).toList.count '\n' = file.toList.count '\n' := by
  rw [String.toList_append, List.count_append, count_number, Nat.add_zero]
  exact count_around (by decide) (by decide) file

theorem count_gutter {n : Nat} (h : n ≠ 0) : (gutter n).toList.count '\n' = 0 := by
  rw [toList_gutter h, List.count_append, List.count_replicate]
  rfl

/-- The line of the source is shown without a line feed. -/
theorem count_numbered (source : String) (n : Nat) :
    (toString n ++ " | " ++ excerpt source n).toList.count '\n' = 0 := by
  rw [String.toList_append, String.toList_append, List.count_append, List.count_append,
    count_number, List.count_eq_zero.mpr (newline_not_mem_excerpt source n)]
  rfl

/-- What is wrong has the line feeds of the message. -/
theorem count_reason {n : Nat} (h : n ≠ 0) (message : String) :
    (gutter n ++ " " ++ message).toList.count '\n' = message.toList.count '\n' := by
  rw [String.toList_append, String.toList_append, List.count_append, List.count_append,
    count_gutter h, Nat.zero_add]
  exact Nat.zero_add _

/-- **The five texts** of any token with an error on a line that is counted from one. -/
theorem blockTexts {t : Token} {cause : LexicalError} (h : t.error? = some cause)
    (hline : t.line ≠ 0) (source file : String) :
    BlockTexts source file t cause (heading cause).toList
      ("-> " ++ file ++ ":" ++ toString t.line).toList (gutter t.line).toList
      (toString t.line ++ " | " ++ excerpt source t.line).toList
      (gutter t.line ++ " " ++ cause.message).toList := by
  have hgutter := toList_gutter hline
  have hmessage : (gutter t.line ++ " " ++ cause.message).toList =
      List.replicate (digitCount t.line + 1) ' ' ++ '|' :: ' ' :: cause.message.toList := by
    rw [String.toList_append, String.toList_append, hgutter, List.append_assoc, List.append_assoc]
    rfl
  have hexcerpt : (toString t.line ++ " | " ++ excerpt source t.line).toList =
      ((toString t.line).toList ++ [' ']) ++ '|' :: ' ' :: (excerpt source t.line).toList := by
    rw [String.toList_append, String.toList_append, List.append_assoc, List.append_assoc]
    rfl
  have hspaces : '|' ∉ List.replicate (digitCount t.line + 1) ' ' := by
    rw [List.mem_replicate, not_and]
    exact fun _ => by decide
  have hnumber : '|' ∉ (toString t.line).toList ++ [' '] := by
    rw [List.mem_append, not_or]
    exact ⟨fun hmem => absurd (isDigit_of_mem_toString hmem) (by decide), by decide⟩
  refine ⟨h, toList_heading cause, ?_, hgutter, ⟨_, ?_, isTrimmed_trim _⟩, ?_, ?_⟩
  · simp only [String.toList_append]
  · rw [String.toList_append, String.toList_append]
    rfl
  · rw [hmessage, List.append_assoc]
    rfl
  · rw [List.forall_mem_cons, List.forall_mem_cons, List.forall_mem_singleton]
    refine ⟨?_, ?_, ?_⟩
    · rw [hgutter, Text.idxOf?_append_cons hspaces, List.length_replicate]
    · rw [hexcerpt, Text.idxOf?_append_cons hnumber, List.length_append, length_toString hline]
      rfl
    · rw [hmessage, Text.idxOf?_append_cons hspaces, List.length_replicate]

end Diagnostic

-- ── The diagnostic of an error ──────────────────────────────────────────────────────

/-- An error of a source is spelled by its lexeme. -/
theorem spells_error_of_mem {source : String} {t : Token} (ht : t ∈ tokenize source)
    {cause : LexicalError} (hcause : t.error? = some cause) :
    Spells t.lexeme.toList (.error cause) := by
  obtain ⟨hspells, -, hliteral⟩ := spells_of_mem ht
  rw [Token.error?_eq_some_iff.mp hcause] at hliteral
  generalize Reading.ofLexeme t.lexeme.toList = reading at hspells hliteral
  cases reading <;> cases hliteral
  exact hspells

theorem toList_lexeme_eq_iff {t : Token} : t.lexeme.toList = ['\'', '\n'] ↔ t.lexeme = "'\n" :=
  @String.toList_inj t.lexeme "'\n"

/-- The line feeds in the message of an error of a source. -/
theorem count_message_of_mem {source : String} {t : Token} (ht : t ∈ tokenize source)
    {cause : LexicalError} (hcause : t.error? = some cause) :
    cause.message.toList.count '\n' = if t.lexeme = "'\n" then 1 else 0 := by
  have hopens := exists_quote_of_newline_mem ht
  rw [count_message_of_spells (spells_error_of_mem ht hcause) hopens]
  exact if_congr toList_lexeme_eq_iff rfl rfl

/-- An apostrophe in front of a line feed is named in the message, at its end. -/
theorem message_of_newline {source : String} {t : Token} (ht : t ∈ tokenize source)
    {cause : LexicalError} (hcause : t.error? = some cause) (hlexeme : t.lexeme = "'\n") :
    cause.message.toList = "malformed character literal: '".toList ++ ['\n'] := by
  have hspells := spells_error_of_mem ht hcause
  rw [toList_lexeme_eq_iff.mpr hlexeme] at hspells
  have hopen : Spells ['\'', '\n'] (.error (.malformedCharacter (String.ofList ['\'', '\n']))) :=
    .openCharacter (Nat.le_refl 1)
  obtain rfl := Reading.error.inj (hspells.unique hopen)
  rfl

/-- **The diagnostic of any error of any source**, under any name. -/
theorem tokenize_diagnostic {source : String} {t : Token} (ht : t ∈ tokenize source)
    (hkind : t.kind = .error) (file : String) :
    ∃ cause first second third fourth fifth,
      BlockLaw source file t cause first second third fourth fifth := by
  have hne : t.error? ≠ none := fun hnone => (error?_eq_none_iff ht).mp hnone hkind
  obtain ⟨cause, hcause⟩ := Option.ne_none_iff_exists'.mp hne
  have hline : t.line ≠ 0 := by
    obtain ⟨k, hk⟩ := List.mem_iff_getElem?.mp ht
    rw [(line_of_getElem? hk).2]
    omega
  have hheading := Diagnostic.count_heading (spells_error_of_mem ht hcause)
  have hgutter := Diagnostic.count_gutter hline
  have hplace := Diagnostic.count_place file t.line
  have hnumbered := Diagnostic.count_numbered source t.line
  have hreason := (Diagnostic.count_reason hline cause.message).trans
    (count_message_of_mem ht hcause)
  have hfour (hfile : '\n' ∉ file.toList) : ∀ text ∈ [(Diagnostic.heading cause).toList,
      ("-> " ++ file ++ ":" ++ toString t.line).toList, (Diagnostic.gutter t.line).toList,
      (toString t.line ++ " | " ++ Diagnostic.excerpt source t.line).toList], '\n' ∉ text := by
    rw [List.forall_mem_cons, List.forall_mem_cons, List.forall_mem_cons,
      List.forall_mem_singleton]
    exact ⟨List.count_eq_zero.mp hheading,
      List.count_eq_zero.mp (hplace.trans (List.count_eq_zero.mpr hfile)),
      List.count_eq_zero.mp hgutter, List.count_eq_zero.mp hnumbered⟩
  have hwritten := (law_writes.diagnostic source file t).prefixLaw.unbounded
  rw [← String.ofList_toList (s := String.join _), Diagnostic.toList_join_lines hcause] at hwritten
  refine ⟨cause, _, _, _, _, _, Diagnostic.blockTexts hcause hline source file, hwritten, ?_, ?_, ?_⟩
  · rw [Text.count_flatMap_feeds]
    simp only [List.map_cons, List.map_nil, List.sum_cons, List.sum_nil, List.length_cons,
      List.length_nil, hheading, hplace, hgutter, hnumbered, hreason]
    omega
  · intro hfile
    have hlast : '\n' ∉ (Diagnostic.gutter t.line ++ " " ++ cause.message).toList ↔
        t.lexeme ≠ "'\n" := by
      rw [← List.count_eq_zero, hreason]
      split <;> simp [*]
    rw [Text.lines_flatMap_iff, ← hlast, ← List.forall_mem_singleton (p := ('\n' ∉ ·))]
    exact List.forall_mem_append.trans (and_iff_right (hfour hfile))
  · intro hfile hlexeme
    rw [if_pos hlexeme] at hreason
    have hmessage : (Diagnostic.gutter t.line ++ " " ++ cause.message).toList =
        (Diagnostic.gutter t.line ++ " " ++ "malformed character literal: '").toList ++ ['\n'] := by
      rw [String.toList_append, message_of_newline ht hcause hlexeme,
        String.toList_append (s := _ ++ " "), List.append_assoc]
    rw [hmessage, List.count_append, List.count_singleton_self, Nat.add_eq_right] at hreason
    refine ⟨_, hmessage, ?_⟩
    rw [hmessage]
    exact Text.lines_flatMap_feed (hfour hfile) (List.count_eq_zero.mp hreason)

/-- The exclamation mark of a tenth line. -/
theorem tokenize_diagnostic_tenth :
    (⟨.error, "!", some (.error (.unexpectedCharacter '!')), 10⟩ : Token) ∈
        tokenize "\n\n\n\n\n\n\n\n\n\ty ! 2\r\n" ∧
      ∃ cause first second third fourth fifth,
        BlockLaw "\n\n\n\n\n\n\n\n\n\ty ! 2\r\n" "main.kpp"
          ⟨.error, "!", some (.error (.unexpectedCharacter '!')), 10⟩ cause
          first second third fourth fifth := by
  have ht : (⟨.error, "!", some (.error (.unexpectedCharacter '!')), 10⟩ : Token) ∈
      tokenize "\n\n\n\n\n\n\n\n\n\ty ! 2\r\n" := by
    decide +kernel
  exact ⟨ht, tokenize_diagnostic ht rfl "main.kpp"⟩

/-- **An apostrophe in front of a line feed makes six lines**, and the last has no gutter. -/
theorem diagnostic_of_newline :
    (⟨.error, "'\n", some (.error (.malformedCharacter "'\n")), 2⟩ : Token) ∈ tokenize "'\nx" ∧
      (Diagnostic.write "'\nx" "f" (.empty none)
          ⟨.error, "'\n", some (.error (.malformedCharacter "'\n")), 2⟩).1.written =
        ("Error: MalformedCharacter (Character literals hold exactly one character, like 'a')\n" ++
          "-> f:2\n  |\n2 | x\n  | malformed character literal: '\n\n").toUTF8 ∧
      (Diagnostic.write "'\nx" "f" (.empty none)
          ⟨.error, "'\n", some (.error (.malformedCharacter "'\n")), 2⟩).1.written.data.toList.count
        '\n'.toUInt8 = 6 := by
  decide +kernel

end KindLex
