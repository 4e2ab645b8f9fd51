import KindLex.Diagnostic
import KindLex.Proofs.Classification
import KindLex.Proofs.LineLaw
import KindLex.Proofs.Text.Lines

/-!
# The line of a token is a line of the source

A scanner counts line feeds as it goes; a diagnostic cuts the source into lines and looks up the one
with the number of the token.  This file shows that the two agree: the end of a lexeme is in the
line that is looked up, and an error is on the line that is shown for it.  A lexeme that ends in a
line feed ends where the next line starts, and its token has the number of that line.

* **`tokenize_linesAgree`**: for every token of every source, the one at its end among them.
* **`tokenize_errorLine`**: what is shown for an error, and when the error is on it.
* **`not_onLine_openString`**: an error need not be on a line that exists.
-/

namespace KindLex

open Scanner

/-- The lines that the tokens of a source are on are lines of the source. -/
structure LinesAgree (source : String) : Prop where
  /-- What stands behind the last line feed of a lexeme is in the line of the token, but for the
      carriage returns at its end. -/
  token : ∀ t ∈ tokenize source, t.kind ≠ .eof → t.lexeme.toList.getLast? ≠ some '\n' →
    ∃ line, Text.line? source t.line = some line ∧
      Text.dropEndWhile (· == '\r') (Text.lastPart t.lexeme.toList) <:+: line.toList
  /-- The end is on a line of the source unless a line has just ended, or there is none. -/
  eof : ∀ t ∈ tokenize source, t.kind = .eof →
    ((Text.line? source t.line).isSome = true ↔
      source ≠ "" ∧ source.toList.getLast? ≠ some '\n')

/-- The line of an error, for a source that is `before`, then the lexeme, then `after`. -/
structure ErrorLine (source : String) (t : Token) (before after : List Char) : Prop where
  /-- Some character of the error is on its line exactly if its last one is no line feed. -/
  touched : (∃ place, before.length ≤ place ∧ place < before.length + t.lexeme.toList.length ∧
      Text.LiesOn source.toList place t.line) ↔ t.lexeme.toList.getLast? ≠ some '\n'
  /-- The last character of the error is on its line, or is the line feed in front of it. -/
  last : Text.LiesOn source.toList (before.length + t.lexeme.toList.length - 1)
    (if t.lexeme.toList.getLast? = some '\n' then t.line - 1 else t.line)
  /-- The line is there exactly if the error touches it or the source goes on. -/
  found : (Text.line? source t.line).isSome = true ↔
    t.lexeme.toList.getLast? ≠ some '\n' ∨ after ≠ []
  /-- The diagnostic shows it behind the gutter. -/
  shown : ∀ line, Text.line? source t.line = some line → ∀ file,
    (Diagnostic.lines t source file)[3]? =
      some (toString t.line ++ " | " ++ Text.trim line ++ "\n")

-- ── Places of lexemes ───────────────────────────────────────────────────────────────

/-- The lexeme of a token parts the source, and its line counts the line feeds up to its end. -/
theorem exists_before {source : String} {k : Nat} {t : Token}
    (hk : (tokenize source)[k]? = some t) :
    ∃ before, (afterTokens source (k + 1)).behind source = before ++ t.lexeme.toList ∧
      source.toList = before ++ t.lexeme.toList ++ (afterTokens source (k + 1)).rest ∧
      t.line = 1 + (before ++ t.lexeme.toList).count '\n' := by
  obtain ⟨⟨before, hbefore⟩, hline⟩ := line_of_getElem? hk
  have hplaced := placed_of_reachable (reachable_afterTokens source (k + 1))
  refine ⟨before, hbefore.symm, ?_, ?_⟩
  · rw [hbefore]
    exact hplaced.text
  · rw [hbefore]
    exact hline

/-- Only the token at the end has an empty lexeme. -/
theorem lexeme_ne_nil {source : String} {t : Token} (h : t ∈ tokenize source)
    (hkind : t.kind ≠ .eof) : t.lexeme.toList ≠ [] := by
  obtain ⟨hspells, hreading, -⟩ := spells_of_mem h
  rw [hreading] at hkind
  exact mt (kind_eq_eof_iff hspells).mpr hkind

/-- The end of a source is behind all of it. -/
theorem line_eof {source : String} {t : Token} (h : t ∈ tokenize source) (hkind : t.kind = .eof) :
    (Text.line? source t.line).isSome = true ↔
      source ≠ "" ∧ source.toList.getLast? ≠ some '\n' := by
  have hsource : source.toList = source.toList ++ [] := (List.append_nil _).symm
  rw [line_of_eof h hkind, Text.isSome_line?_iff hsource, List.append_nil, ne_eq,
    Text.lastPart_eq_nil_iff, not_or, String.toList_eq_nil_iff]

/-- **The lines of the tokens are lines of the source**, for every source. -/
theorem tokenize_linesAgree (source : String) : LinesAgree source where
  token t ht hkind hlast := by
    obtain ⟨k, hk⟩ := List.mem_iff_getElem?.mp ht
    obtain ⟨before, -, hsource, hline⟩ := exists_before hk
    have hsuffix := Text.lastPart_suffix_append before t.lexeme.toList
    have hne : Text.lastPart t.lexeme.toList ≠ [] := fun hnil =>
      (Text.lastPart_eq_nil_iff.mp hnil).elim (lexeme_ne_nil ht hkind) hlast
    have hne' : Text.lastPart (before ++ t.lexeme.toList) ≠ [] := fun hnil =>
      hne (List.suffix_nil.mp (hnil ▸ hsuffix))
    rw [hline]
    exact Text.infix_of_line? hsource hne' hsuffix
  eof _ ht hkind := line_eof ht hkind

-- ── Errors ──────────────────────────────────────────────────────────────────────────

/-- What a diagnostic shows of the line of an error. -/
theorem lines_getElem?_three {source : String} {t : Token} {line : String}
    (hmem : t ∈ tokenize source) (hkind : t.kind = .error)
    (hline : Text.line? source t.line = some line) (file : String) :
    (Diagnostic.lines t source file)[3]? =
      some (toString t.line ++ " | " ++ Text.trim line ++ "\n") := by
  have hne : t.error? ≠ none := fun hnone => (error?_eq_none_iff hmem).mp hnone hkind
  obtain ⟨cause, hcause⟩ := Option.ne_none_iff_exists'.mp hne
  rw [Diagnostic.lines, hcause]
  dsimp only [Diagnostic.block, Diagnostic.excerpt]
  rw [hline]
  rfl

/-- **The line of an error**: the error is on it unless it ends in a line feed. -/
theorem tokenize_errorLine {source : String} {k : Nat} {t : Token}
    (hk : (tokenize source)[k]? = some t) (hkind : t.kind = .error) :
    ∃ before after, (afterTokens source (k + 1)).behind source = before ++ t.lexeme.toList ∧
      source.toList = before ++ t.lexeme.toList ++ after ∧ ErrorLine source t before after := by
  have hmem := List.mem_of_getElem? hk
  obtain ⟨before, hbehind, hsource, hline⟩ := exists_before hk
  have hne : t.lexeme.toList ≠ [] := lexeme_ne_nil hmem (by simp [hkind])
  have hfound := Text.isSome_line?_iff hsource
  refine ⟨before, _, hbehind, hsource, ?_⟩
  -- the lexeme is a front and the character that ends it
  obtain ⟨front, c, hlexeme⟩ : ∃ front c, t.lexeme.toList = front ++ [c] :=
    ⟨_, _, (List.dropLast_append_getLast hne).symm⟩
  have hlast : t.lexeme.toList.getLast? = some c := by rw [hlexeme, List.getLast?_concat]
  have hlength : before.length + t.lexeme.toList.length = (before ++ front).length + 1 := by
    rw [hlexeme, List.length_append, List.length_append, List.length_singleton, Nat.add_assoc]
  have htext : source.toList = before ++ front ++ c :: (afterTokens source (k + 1)).rest := by
    rw [hsource, hlexeme]
    simp
  have hcount : t.line = 1 + (before ++ front ++ [c]).count '\n' := by
    rw [hline, hlexeme, List.append_assoc]
  have hplace := @Text.liesOn_of_count _ (afterTokens source (k + 1)).rest _ _ hcount
  rw [← htext] at hplace
  constructor
  · rw [hlast, hlength]
    constructor
    · rintro ⟨place, -, hlt, hon⟩ hnewline
      obtain rfl := Option.some.inj hnewline
      rw [htext, hcount] at hon
      exact Text.not_liesOn_of_newline (Nat.le_of_lt_succ hlt) hon
    · intro hnewline
      rw [if_neg fun h => hnewline (congrArg some h)] at hplace
      exact ⟨_, List.length_append ▸ Nat.le_add_right _ _, Nat.lt_succ_self _, hplace⟩
  · simpa only [hlast, hlength, Nat.add_sub_cancel, Option.some.injEq] using hplace
  · have happend : before ++ t.lexeme.toList ≠ [] := List.append_ne_nil_of_right_ne_nil _ hne
    rw [hline, hfound, ne_eq, List.append_eq_nil_iff, Text.lastPart_eq_nil_iff,
      List.getLast?_append_of_ne_nil _ hne]
    tauto
  · intro line hfound file
    exact lines_getElem?_three hmem hkind hfound file

/-- The ampersand of `a & b`. -/
theorem tokenize_errorLine_ampersand :
    (tokenize "a & b")[1]? =
        some ⟨.error, "&", some (.error (.unexpectedCharacter '&')), 1⟩ ∧
      ∃ before after, (afterTokens "a & b" 2).behind "a & b" = before ++ "&".toList ∧
        "a & b".toList = before ++ "&".toList ++ after ∧
        ErrorLine "a & b" ⟨.error, "&", some (.error (.unexpectedCharacter '&')), 1⟩ before after := by
  have hk : (tokenize "a & b")[1]? =
      some ⟨.error, "&", some (.error (.unexpectedCharacter '&')), 1⟩ := by
    decide +kernel
  exact ⟨hk, tokenize_errorLine hk rfl⟩

/-- **An error need not be on a line that exists**: a string that is open at the end of a line is
    reported on the next one, also where there is none. -/
theorem not_onLine_openString :
    (⟨.error, "\"\n", some (.error .unterminatedString), 2⟩ : Token) ∈ tokenize "\"\n" ∧
      Text.line? "\"\n" 2 = none ∧ ∀ place, ¬ Text.LiesOn "\"\n".toList place 2 := by
  refine ⟨by decide +kernel, by decide +kernel, ?_⟩
  rintro place ⟨hstart, hend⟩
  -- the text has one line, so a second one would start and end where the text ends
  exact absurd hstart (Nat.not_le.mpr hend)

end KindLex
