import KindLex.Proofs.Prompt
import KindLex.Proofs.Scanner.Scans
import KindLex.Proofs.Text.Utf8

/-!
# Carriage returns in front of line feeds

A program that is typed at a prompt loses the carriage returns in front of its line feeds, and one
that is read from a file keeps them.  They are blanks, or characters of a comment, or else in a
lexeme; and where no lexeme has one, both programs have the same tokens.

* **`Text.chomped_chomp`**: what a line is without what ends it.
* **`Scans.bareFeeds`**: a text with bare line feeds makes the tokens that it made.
* **`Typable.typed`**, **`Typable.exists_program`**: what is read of a text that is typed.
* **`tokenize_read`**: a text that is typed has the tokens that it has by itself.
-/

namespace KindLex

open Lexeme

namespace Text

/-- A text with bare line feeds: a carriage return in front of a line feed is left out. -/
def bareFeeds : List Char → List Char
  | []        => []
  | c :: rest =>
      if c = '\r' ∧ rest.head? = some '\n' then bareFeeds rest else c :: bareFeeds rest

end Text

namespace Prompt

/-- A text that is typed as a whole, with lexemes that have no carriage return in them. -/
structure Typable (text : String) : Prop where
  nonempty : text ≠ ""
  /-- Every line ends in a line feed. -/
  ended : ∀ line ∈ Text.lines text.toList, line.getLast? = some '\n'
  /-- No line ends the reading. -/
  goesOn : ∀ line ∈ Text.lines text.toList, Text.trim (String.ofList line) ≠ "#"
  lexemes : ∀ t ∈ tokenize text, '\r' ∉ t.lexeme.toList

end Prompt

namespace Text

-- ── Bare line feeds ─────────────────────────────────────────────────────────────────

/-- Parts of a text may be taken one by one unless a carriage return and a line feed are parted. -/
theorem bareFeeds_append {text rest : List Char}
    (h : text.getLast? = some '\r' → rest.head? ≠ some '\n') :
    bareFeeds (text ++ rest) = bareFeeds text ++ bareFeeds rest := by
  induction text with
  | nil => rfl
  | cons c text ih =>
      rw [List.cons_append, bareFeeds, bareFeeds]
      by_cases htext : text = []
      · subst htext
        rw [List.nil_append, if_neg, if_neg]
        · rfl
        · exact fun hc => nomatch hc.2
        · exact fun hc => h (congrArg some hc.1) hc.2
      · obtain ⟨d, tail, rfl⟩ := List.exists_cons_of_ne_nil htext
        rw [ih (by rwa [List.getLast?_cons_cons] at h), List.cons_append, List.head?_cons,
          List.head?_cons]
        split <;> rfl

/-- Where there is no line feed, or no carriage return, nothing is left out. -/
theorem bareFeeds_of_not_mem {text : List Char} (h : '\n' ∉ text ∨ '\r' ∉ text) :
    bareFeeds text = text := by
  induction text with
  | nil => rfl
  | cons c text ih =>
      rw [bareFeeds, if_neg, ih]
      · exact h.imp (fun h hmem => h (List.mem_cons_of_mem c hmem))
          fun h hmem => h (List.mem_cons_of_mem c hmem)
      · rintro ⟨rfl, hhead⟩
        rcases h with h | h
        · exact h (List.mem_cons_of_mem _ (List.mem_of_mem_head? hhead))
        · exact h List.mem_cons_self

theorem bareFeeds_cons_of_ne {c : Char} (h : c ≠ '\r') (rest : List Char) :
    bareFeeds (c :: rest) = c :: bareFeeds rest := by
  rw [bareFeeds, if_neg fun hc => h hc.1]

theorem bareFeeds_return (rest : List Char) :
    bareFeeds ('\r' :: '\n' :: rest) = bareFeeds ('\n' :: rest) := by
  rw [bareFeeds, if_pos ⟨rfl, rfl⟩]

/-- A part without line feeds is left as it is, or loses a carriage return at its end. -/
theorem bareFeeds_append_or {part : List Char} (h : '\n' ∉ part) (rest : List Char) :
    bareFeeds (part ++ rest) = part ++ bareFeeds rest ∨
      ∃ front, part = front ++ ['\r'] ∧ bareFeeds (part ++ rest) = front ++ bareFeeds rest := by
  by_cases hparted : part.getLast? = some '\r' ∧ rest.head? = some '\n'
  · obtain ⟨hlast, hhead⟩ := hparted
    obtain ⟨front, rfl⟩ := List.getLast?_eq_some_iff.mp hlast
    obtain ⟨later, rfl⟩ := List.head?_eq_some_iff.mp hhead
    have hfront : '\n' ∉ front := fun hmem => h (List.mem_append_left _ hmem)
    refine Or.inr ⟨front, rfl, ?_⟩
    rw [List.append_assoc, List.singleton_append, bareFeeds_append fun _ => by simp,
      bareFeeds_of_not_mem (Or.inl hfront), bareFeeds_return]
  · left
    rw [bareFeeds_append fun hlast hhead => hparted ⟨hlast, hhead⟩,
      bareFeeds_of_not_mem (Or.inl h)]

/-- A text has bare line feeds only, or there is a first line feed that is not bare. -/
theorem bareFeeds_eq_or (text : List Char) :
    bareFeeds text = text ∨ ∃ front rest, text = front ++ '\r' :: '\n' :: rest ∧
      bareFeeds text = front ++ '\n' :: bareFeeds rest := by
  induction text with
  | nil => exact Or.inl rfl
  | cons c text ih =>
      by_cases hc : c = '\r' ∧ text.head? = some '\n'
      · obtain ⟨rfl, hhead⟩ := hc
        obtain ⟨rest, rfl⟩ := List.head?_eq_some_iff.mp hhead
        refine Or.inr ⟨[], rest, rfl, ?_⟩
        rw [bareFeeds_return, bareFeeds_cons_of_ne (by decide), List.nil_append]
      · rw [bareFeeds, if_neg hc]
        rcases ih with hsame | ⟨front, rest, htext, hbare⟩
        · exact Or.inl (congrArg _ hsame)
        · exact Or.inr ⟨c :: front, rest, congrArg _ htext, congrArg _ hbare⟩

-- ── Lines ───────────────────────────────────────────────────────────────────────────

/-- A line without what ends it, and a line feed, is the line with a bare line feed. -/
theorem chomp_append_newline {body : List Char} (h : '\n' ∉ body) :
    chomp (body ++ ['\n']) ++ ['\n'] = bareFeeds (body ++ ['\n']) := by
  rcases List.eq_nil_or_concat body with rfl | ⟨front, c, rfl⟩
  · rfl
  · have hfront : '\n' ∉ front := fun hmem => h (by simp [hmem])
    rw [List.concat_eq_append] at h ⊢
    by_cases hc : c = '\r'
    · subst hc
      have hchomp : chomp (front ++ ['\r'] ++ ['\n']) = front := by simp [chomp]
      rw [hchomp, List.append_assoc, bareFeeds_append fun _ => by simp,
        bareFeeds_of_not_mem (Or.inl hfront)]
      rfl
    · have hchomp : chomp (front ++ [c] ++ ['\n']) = front ++ [c] := by simp [chomp, hc]
      rw [hchomp, bareFeeds_append fun hlast => absurd (by simpa using hlast) hc,
        bareFeeds_of_not_mem (Or.inl h)]
      rfl

/-- `Chomped line body`: the line is its body and what ends the line, if anything does. -/
inductive Chomped : (line body : List Char) → Prop where
  | returnFeed (body) : Chomped (body ++ ['\r', '\n']) body
  | feed {body} (h : body.getLast? ≠ some '\r') : Chomped (body ++ ['\n']) body
  | unended {body} (h : body.getLast? ≠ some '\n') : Chomped body body

/-- **What `chomp` leaves of a line is its body.** -/
theorem chomped_chomp (line : List Char) : Chomped line (chomp line) := by
  rw [chomp]
  split
  · rename_i rest hreverse
    obtain rfl : line = rest.reverse ++ ['\r', '\n'] := by
      rw [← List.reverse_reverse line, hreverse]
      simp
    exact .returnFeed _
  · rename_i rest hreturn hreverse
    obtain rfl : line = rest.reverse ++ ['\n'] := by
      rw [← List.reverse_reverse line, hreverse]
      simp
    refine .feed fun hlast => ?_
    rw [List.getLast?_reverse] at hlast
    obtain ⟨front, rfl⟩ := List.head?_eq_some_iff.mp hlast
    exact hreturn front rfl
  · rename_i hnone
    refine .unended fun hlast => ?_
    obtain ⟨front, rfl⟩ := List.getLast?_eq_some_iff.mp hlast
    exact hnone front.reverse (List.reverse_concat ..)

/-- A line feed stands at the end of a line only, and not in its body. -/
theorem Chomped.newline_not_mem {line body : List Char} (h : Chomped line body)
    (hfeed : '\n' ∉ line.dropLast) : '\n' ∉ body := by
  cases h with
  | returnFeed =>
      rw [List.dropLast_append_of_ne_nil (List.cons_ne_nil _ _)] at hfeed
      exact fun hmem => hfeed (List.mem_append_left _ hmem)
  | feed => rwa [List.dropLast_concat] at hfeed
  | unended hlast =>
      rcases List.eq_nil_or_concat line with rfl | ⟨front, c, rfl⟩
      · exact List.not_mem_nil
      · rw [List.concat_eq_append, List.dropLast_concat] at hfeed
        rw [List.concat_eq_append, List.getLast?_concat] at hlast
        rw [List.concat_eq_append, List.mem_append, List.mem_singleton]
        rintro (hmem | rfl)
        · exact hfeed hmem
        · exact hlast rfl

/-- What a line loses at its end is white space. -/
theorem Chomped.eq_append {line body : List Char} (h : Chomped line body) :
    ∃ ending, line = body ++ ending ∧ ∀ c ∈ ending, Unicode.isWhiteSpace c = true := by
  cases h with
  | returnFeed => exact ⟨['\r', '\n'], rfl, List.all_eq_true.mp (by decide)⟩
  | feed => exact ⟨['\n'], rfl, List.all_eq_true.mp (by decide)⟩
  | unended => exact ⟨[], (List.append_nil _).symm, nofun⟩

/-- White space at the end of a text is trimmed with it. -/
theorem trim_append {text ending : List Char}
    (h : ∀ c ∈ ending, Unicode.isWhiteSpace c = true) :
    trim (String.ofList (text ++ ending)) = trim (String.ofList text) := by
  have hreverse : ∀ c ∈ ending.reverse, Unicode.isWhiteSpace c = true :=
    fun c hc => h c (List.mem_reverse.mp hc)
  rw [trim, trim, String.toList_ofList, String.toList_ofList, List.dropWhile_append]
  split
  · rename_i hnone
    rw [List.isEmpty_iff.mp hnone, List.dropWhile_eq_nil_iff.mpr h]
  · rw [dropEndWhile, List.reverse_append, List.dropWhile_append_of_pos hreverse, dropEndWhile]

theorem trim_chomp (line : List Char) :
    trim (String.ofList (chomp line)) = trim (String.ofList line) := by
  obtain ⟨ending, hline, hending⟩ := (chomped_chomp line).eq_append
  exact (trim_append hending).symm.trans (by rw [← hline])

theorem bareFeeds_flatten {lines : List (List Char)}
    (h : ∀ line ∈ lines, line.getLast? = some '\n') :
    bareFeeds lines.flatten = (lines.map bareFeeds).flatten := by
  induction lines with
  | nil => rfl
  | cons line lines ih =>
      have hlater := ih fun other hother => h other (List.mem_cons_of_mem line hother)
      rw [List.flatten_cons, List.map_cons, List.flatten_cons, bareFeeds_append, hlater]
      intro hlast
      rw [h line List.mem_cons_self] at hlast
      exact absurd hlast (by decide)

end Text

-- ── What bare line feeds change ─────────────────────────────────────────────────────

theorem count_comment {body : List Char} (hbody : '\n' ∉ body) :
    ('/' :: '/' :: body).count '\n' = 0 :=
  List.count_eq_zero.mpr (by simpa using hbody)

/-- A comment keeps a text on its line. -/
theorem Scans.comment {body rest : List Char} {line : Nat} {tokens : List Token}
    (hbody : '\n' ∉ body) (hend : ∀ c ∈ rest.head?, c = '\n') (h : Scans rest line tokens) :
    Scans ('/' :: '/' :: (body ++ rest)) line tokens := by
  refine .skip (.comment hbody hend) ?_
  rw [count_comment hbody]
  exact h

/-- What is skipped is skipped as far as it is left. -/
theorem Skips.bareFeeds {part rest : List Char} (h : Skips part rest) {line : Nat}
    {tokens : List Token} (hrest : Scans (Text.bareFeeds rest) (line + part.count '\n') tokens) :
    Scans (Text.bareFeeds (part ++ rest)) line tokens := by
  cases h with
  | @blank c _ hc =>
      rw [List.singleton_append, Text.bareFeeds]
      split
      · rename_i hreturn
        obtain ⟨rfl, -⟩ := hreturn
        exact hrest
      · exact .skip (.blank hc) hrest
  | @comment body _ hbody hend =>
      have hend' : ∀ c ∈ (Text.bareFeeds rest).head?, c = '\n' := by
        cases rest with
        | nil => exact hend
        | cons d rest =>
            obtain rfl := hend d rfl
            rw [Text.bareFeeds_cons_of_ne (by decide)]
            exact hend
      rw [count_comment hbody] at hrest
      rw [List.cons_append, List.cons_append, Text.bareFeeds_cons_of_ne (by decide),
        Text.bareFeeds_cons_of_ne (by decide)]
      rcases Text.bareFeeds_append_or hbody rest with hsame | ⟨front, rfl, hfront⟩
      · rw [hsame]
        exact hrest.comment hbody hend'
      · rw [hfront]
        exact hrest.comment (fun hmem => hbody (List.mem_append_left _ hmem)) hend'

/-- A lexeme stands where it did. -/
theorem Stands.bareFeeds {lexeme rest : List Char} (h : Stands lexeme rest) :
    Stands lexeme (Text.bareFeeds rest) := by
  rcases Text.bareFeeds_eq_or rest with hsame | ⟨front, tail, hrest, hbare⟩
  · rwa [hsame]
  · -- up to the front the texts agree, and in both a blank behind it ends every lookahead
    have hclosed : ¬ Unclosed lexeme := by
      intro hopen
      rw [h.cut.rest_eq_nil hopen] at hrest
      exact absurd hrest.symm (List.append_ne_nil_of_right_ne_nil _ (List.cons_ne_nil _ _))
    rw [hrest] at h
    rw [hbare]
    exact h.of_longer.append (apart_of_blank _ _ (by decide)) fun _ => hclosed

/-- **A text with bare line feeds makes the tokens that it made**, if no lexeme has a carriage return
    in it. -/
theorem Scans.bareFeeds {text : List Char} {line : Nat} {tokens : List Token}
    (h : Scans text line tokens) (hlexemes : ∀ t ∈ tokens, '\r' ∉ t.lexeme.toList) :
    Scans (Text.bareFeeds text) line tokens := by
  induction h with
  | finish line => exact .finish line
  | skip hpart _ ih => exact hpart.bareFeeds (ih hlexemes)
  | @token lexeme rest line tokens hlexeme _ ih =>
      have hreturn : '\r' ∉ lexeme := by
        have hfirst := hlexemes _ List.mem_cons_self
        rwa [Token.toList_lexeme_ofLexeme] at hfirst
      rw [Text.bareFeeds_append, Text.bareFeeds_of_not_mem (Or.inr hreturn)]
      · exact .token hlexeme.bareFeeds (ih fun t ht => hlexemes t (List.mem_cons_of_mem _ ht))
      · intro hlast
        exact absurd (List.mem_of_mem_getLast? hlast) hreturn

-- a character between apostrophes is read differently without its carriage return
example : tokenize (String.ofList (Text.bareFeeds "'\r\n'".toList)) ≠ tokenize "'\r\n'" := by
  decide +kernel

-- ── What is typed ───────────────────────────────────────────────────────────────────

namespace Prompt

/-- **A text that is typed is read to its end.** -/
theorem Typable.typed {text : String} (h : Typable text) :
    Typed text.toUTF8.data.toList
      ((Text.lines text.toList).map fun line => String.ofList (Text.chomp line)) [] := by
  refine ⟨⟨_, (List.append_nil _).symm, ?_⟩, nofun⟩
  rw [lines, Text.Utf8.toUTF8_eq_encode, Text.Utf8.splitAfter_encode, List.forall₂_map_left_iff,
    List.forall₂_map_right_iff, List.forall₂_same]
  intro line hline
  constructor
  · rw [lineText?, Text.Utf8.decode?_encode, Option.map_some, String.toList_ofList]
  · rw [Text.trim_chomp]
    exact h.goesOn line hline

/-- A line that ends in a line feed is put together again with a bare one. -/
theorem Typable.chomp_append {text : String} (h : Typable text) {line : List Char}
    (hline : line ∈ Text.lines text.toList) :
    Text.chomp line ++ ['\n'] = Text.bareFeeds line := by
  obtain ⟨body, rfl⟩ := List.getLast?_eq_some_iff.mp (h.ended line hline)
  refine Text.chomp_append_newline fun hmem => ?_
  have hbody : (body ++ ['\n']).dropLast = body := List.dropLast_concat
  exact absurd (Text.isSeparator_of_mem_dropLast hline (hbody.symm ▸ hmem)) (by decide)

/-- The program that is typed is the text with bare line feeds. -/
theorem Typable.exists_program {text : String} (h : Typable text) :
    ∃ code,
      program ((Text.lines text.toList).map fun line => String.ofList (Text.chomp line)) =
        some code ∧ code.toList = Text.bareFeeds text.toList := by
  have hsome : (Text.lines text.toList).map (fun line => String.ofList (Text.chomp line)) ≠ [] := by
    intro hnil
    have htext := Text.flatten_splitAfter (· == '\n') text.toList
    rw [← Text.lines, List.map_eq_nil_iff.mp hnil, List.flatten_nil] at htext
    exact h.nonempty (String.toList_eq_nil_iff.mp htext.symm)
  refine ⟨_, if_neg (by simpa using hsome), ?_⟩
  have hlines : (Text.lines text.toList).map (fun line => Text.chomp line ++ ['\n']) =
      (Text.lines text.toList).map Text.bareFeeds :=
    List.map_congr_left fun line hline => h.chomp_append hline
  calc (String.join _).toList
    _ = ((Text.lines text.toList).map fun line => Text.chomp line ++ ['\n']).flatten := by
          rw [String.toList_join, List.map_map, List.flatMap_map, List.flatMap_def]
          simp
    _ = Text.bareFeeds (Text.lines text.toList).flatten := by
          rw [hlines, Text.bareFeeds_flatten h.ended]
    _ = Text.bareFeeds text.toList := by rw [Text.lines, Text.flatten_splitAfter]

/-- **A text that is typed has the tokens that it has by itself**: its program is the text with bare
    line feeds. -/
theorem tokenize_read {text : String} (h : Typable text) :
    ∃ code, read text.toUTF8.data.toList = .ok ⟨some code, 0⟩ ∧
      code.toList = Text.bareFeeds text.toList ∧ tokenize code = tokenize text := by
  obtain ⟨code, hprogram, hcode⟩ := h.exists_program
  refine ⟨code, ?_, hcode, ?_⟩
  · rw [h.typed.read_eq_ok nofun, hprogram]
    rfl
  · apply tokenize_eq_of_scans
    rw [hcode]
    exact (scans_tokenize text).bareFeeds h.lexemes

/-- Behind an apostrophe and a letter a carriage return ends the lexeme. -/
theorem tokenize_read_returns :
    Typable "x = 3.\r\n// note\r\n'a\r\n\r\"s\nt\"\r\n" ∧
      ∃ code, read "x = 3.\r\n// note\r\n'a\r\n\r\"s\nt\"\r\n".toUTF8.data.toList =
          .ok ⟨some code, 0⟩ ∧
        code.toList = Text.bareFeeds "x = 3.\r\n// note\r\n'a\r\n\r\"s\nt\"\r\n".toList ∧
        tokenize code = tokenize "x = 3.\r\n// note\r\n'a\r\n\r\"s\nt\"\r\n" :=
  have htypable : Typable "x = 3.\r\n// note\r\n'a\r\n\r\"s\nt\"\r\n" :=
    ⟨by decide, by decide +kernel, by decide +kernel, by decide +kernel⟩
  ⟨htypable, tokenize_read htypable⟩

end Prompt

end KindLex
