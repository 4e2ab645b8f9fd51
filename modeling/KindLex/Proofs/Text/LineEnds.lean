import KindLex.Proofs.Text.Lines

/-!
# Lines and their ends

A line is looked up without what ends it: carriage returns and a line feed, which only a last line
may lack.  Here the lines that are looked up and their ends are put together to the text again, so
that nothing is lost but carriage returns in front of a line feed and the line feed itself.

* **`length_lines`**: how many lines there are.
* **`exists_getElem_lines_eq`**: a line that is looked up, and its end.
* **`line?_splits`**: every text is the lines that are looked up in it, with their ends.
-/

namespace KindLex.Text

/-- How many lines a text has: one for every line feed, and one for what stands behind the last. -/
def lineCount (text : List Char) : Nat :=
  text.count '\n' + if text ≠ [] ∧ text.getLast? ≠ some '\n' then 1 else 0

/-- The line feed at the end of the `n`-th line of a text: only the last line may have none, and has
    none unless the text ends in one. -/
def feedAt (text : List Char) (n : Nat) : List Char :=
  if n = lineCount text ∧ text.getLast? ≠ some '\n' then [] else ['\n']

/-- The lines that are looked up are those of the text. -/
structure SplitsIntoLines (source : String) : Prop where
  /-- There is a line for every number from one to the count, and for no other. -/
  found : ∀ n, (line? source n).isSome = true ↔ 1 ≤ n ∧ n ≤ lineCount source.toList
  /-- One behind the other, each with some carriage returns and its line feed, they are the text. -/
  whole : ∃ returns : Nat → Nat, source.toList =
    (List.range' 1 (lineCount source.toList)).flatMap fun n =>
      ((line? source n).getD "").toList ++ List.replicate (returns n) '\r' ++
        feedAt source.toList n
  /-- No line holds a line feed or ends in a carriage return. -/
  clean : ∀ n line, line? source n = some line →
    '\n' ∉ line.toList ∧ line.toList.getLast? ≠ some '\r'

-- ── How many ────────────────────────────────────────────────────────────────────────

/-- The pieces of a complete sequence are complete. -/
theorem Complete.of_mem_splitAfter {α : Type} {isSeparator : α → Bool} {items piece : List α}
    (h : Complete isSeparator items) (hpiece : piece ∈ splitAfter isSeparator items) :
    Complete isSeparator piece := by
  induction items generalizing piece with
  | nil => exact nomatch hpiece
  | cons a items ih =>
      rw [splitAfter] at hpiece
      split at hpiece
      · rename_i ha
        rcases List.mem_cons.mp hpiece with rfl | hpiece
        · intro b hb
          obtain rfl := Option.some.inj hb
          exact ha
        · exact ih h.of_cons hpiece
      · split at hpiece
        · rename_i hnone
          -- nothing is behind the first item, which is then the separator at the end
          have hitems : items = [] := by
            by_contra hne
            exact splitAfter_ne_nil isSeparator hne hnone
          obtain rfl := List.mem_singleton.mp hpiece
          rw [hitems] at h
          exact h
        · rename_i first others hpieces
          have hfirst : first ∈ splitAfter isSeparator items := hpieces ▸ List.mem_cons_self
          rcases List.mem_cons.mp hpiece with rfl | hpiece
          · intro b hb
            obtain ⟨c, tail, rfl⟩ := List.exists_cons_of_ne_nil (ne_nil_of_mem_splitAfter hfirst)
            rw [List.getLast?_cons_cons] at hb
            exact ih h.of_cons hfirst b hb
          · exact ih h.of_cons (hpieces ▸ List.mem_cons_of_mem _ hpiece)

/-- The lines of a text: some that end in a line feed, and what stands behind the last. -/
theorem exists_lines_eq (text : List Char) :
    ∃ full, (∀ line ∈ lines full, line.getLast? = some '\n') ∧
      (lines full).length = text.count '\n' ∧
      lines text = lines full ++ if lastPart text = [] then [] else [lastPart text] := by
  obtain ⟨full, hfull, htext⟩ := exists_eq_append_openPart (· == '\n') text
  have hopen : ∀ c ∈ lastPart text, (c == '\n') = false := fun c => isSeparator_of_mem_openPart
  have hnone : (lastPart text).count '\n' = 0 :=
    List.count_eq_zero.mpr (newline_not_mem_lastPart text)
  refine ⟨full, ?_, ?_, ?_⟩
  · intro line hline
    obtain ⟨front, c, rfl⟩ : ∃ front c, line = front ++ [c] :=
      ⟨_, _, (List.dropLast_append_getLast (ne_nil_of_mem_splitAfter hline)).symm⟩
    have hc := hfull.of_mem_splitAfter hline c List.getLast?_concat
    rw [List.getLast?_concat, eq_of_beq hc]
  · rw [lines, length_splitAfter hfull]
    conv => rhs; rw [htext, List.count_append]
    show full.count '\n' = full.count '\n' + (lastPart text).count '\n'
    rw [hnone, Nat.add_zero]
  · have hparts : lines text = lines full ++ lines (lastPart text) := by
      conv => lhs; rw [htext]
      exact splitAfter_append hfull _
    rw [hparts]
    split
    · rename_i hnil
      rw [hnil]
      rfl
    · rename_i hne
      have hlast : lines (lastPart text ++ []) = [lastPart text ++ []] :=
        splitAfter_append_of_open hne hopen []
      rw [List.append_nil] at hlast
      rw [hlast]

/-- **How many lines there are.** -/
theorem length_lines (text : List Char) : (lines text).length = lineCount text := by
  obtain ⟨full, -, hlength, hlines⟩ := exists_lines_eq text
  have hiff : (text ≠ [] ∧ text.getLast? ≠ some '\n') ↔ ¬ lastPart text = [] := by
    rw [lastPart_eq_nil_iff, not_or]
  rw [hlines, List.length_append, hlength, lineCount, if_congr hiff rfl rfl, ite_not]
  split <;> rfl

-- ── What ends a line ────────────────────────────────────────────────────────────────

/-- All lines but the last end in a line feed, and it does if the text does. -/
theorem getLast?_getElem_lines {text : List Char} {i : Nat} (hi : i < (lines text).length) :
    (lines text)[i].getLast? = some '\n' ↔
      ¬ (i + 1 = lineCount text ∧ text.getLast? ≠ some '\n') := by
  obtain ⟨full, hfull, -, hlines⟩ := exists_lines_eq text
  rw [← length_lines]
  by_cases hlast : lastPart text = []
  · rw [if_pos hlast, List.append_nil] at hlines
    have hmem : (lines text)[i] ∈ lines full := hlines ▸ List.getElem_mem hi
    have hends : text.getLast? = some '\n' := by
      refine (lastPart_eq_nil_iff.mp hlast).resolve_left ?_
      rintro rfl
      exact absurd hi (Nat.not_lt_zero i)
    exact iff_of_true (hfull _ hmem) fun h => h.2 hends
  · rw [if_neg hlast] at hlines
    have hlength : (lines text).length = (lines full).length + 1 := by
      rw [hlines, List.length_append, List.length_singleton]
    rcases Nat.lt_succ_iff_lt_or_eq.mp (hlength ▸ hi) with hlt | heq
    · have hmem : (lines text)[i] ∈ lines full := by
        simp only [hlines, List.getElem_append_left hlt, List.getElem_mem]
      refine iff_of_true (hfull _ hmem) fun h => ?_
      omega
    · have hline : (lines text)[i] = lastPart text := by
        simp only [hlines, heq, List.getElem_concat_length]
      have hfeed : (lastPart text).getLast? ≠ some '\n' := fun h =>
        newline_not_mem_lastPart text (List.mem_of_getLast? h)
      rw [hline]
      refine iff_of_false hfeed (not_not.mpr ⟨by omega, fun h => hlast ?_⟩)
      exact lastPart_eq_nil_iff.mpr (Or.inr h)

/-- A line is what is in front of its line feed, and that is what it is looked up by. -/
theorem exists_eq_append_feed {text line : List Char} (h : line ∈ lines text) :
    ∃ body, '\n' ∉ body ∧
      line = body ++ (if line.getLast? = some '\n' then ['\n'] else []) ∧
      dropEndWhile endsLine line = dropEndWhile (· == '\r') body := by
  obtain ⟨front, c, rfl⟩ : ∃ front c, line = front ++ [c] :=
    ⟨_, _, (List.dropLast_append_getLast (ne_nil_of_mem_splitAfter h)).symm⟩
  have hfront : '\n' ∉ front := by
    intro hmem
    have hdropLast : '\n' ∈ (front ++ [c]).dropLast := by
      rw [List.dropLast_concat]
      exact hmem
    exact absurd (isSeparator_of_mem_dropLast h hdropLast) (by decide)
  rw [List.getLast?_concat]
  by_cases hc : c = '\n'
  · subst hc
    refine ⟨front, hfront, rfl, ?_⟩
    rw [← dropEndWhile_endsLine hfront]
    exact List.rdropWhile_concat_pos endsLine front '\n' rfl
  · have hline : '\n' ∉ front ++ [c] := by
      rw [List.mem_append, List.mem_singleton, not_or]
      exact ⟨hfront, fun heq => hc heq.symm⟩
    refine ⟨front ++ [c], hline, ?_, dropEndWhile_endsLine hline⟩
    rw [if_neg fun heq => hc (Option.some.inj heq), List.append_nil]

/-- What is taken off the end of a text while it is carriage returns. -/
theorem exists_eq_append_returns (text : List Char) :
    ∃ returns, text = dropEndWhile (· == '\r') text ++ List.replicate returns '\r' := by
  have hreturns : text.rtakeWhile (· == '\r') =
      List.replicate (text.rtakeWhile (· == '\r')).length '\r' := by
    refine List.eq_replicate_of_mem fun c hc => ?_
    exact eq_of_beq (List.mem_rtakeWhile_imp (p := (· == '\r')) hc)
  refine ⟨(text.rtakeWhile (· == '\r')).length, ?_⟩
  rw [← hreturns]
  exact List.rdropWhile_append_rtakeWhile.symm

/-- **A line that is looked up, and its end.** -/
theorem exists_getElem_lines_eq {text : List Char} {i : Nat} (hi : i < (lines text).length) :
    ∃ returns, (lines text)[i] =
      dropEndWhile endsLine (lines text)[i] ++ List.replicate returns '\r' ++
        feedAt text (i + 1) := by
  obtain ⟨body, -, hline, hdrop⟩ := exists_eq_append_feed (List.getElem_mem hi)
  obtain ⟨returns, hbody⟩ := exists_eq_append_returns body
  have hfeed : feedAt text (i + 1) =
      if (lines text)[i].getLast? = some '\n' then ['\n'] else [] := by
    rw [feedAt, if_congr (getLast?_getElem_lines hi) rfl rfl, ite_not]
  refine ⟨returns, ?_⟩
  rw [hfeed, hdrop, ← hbody]
  exact hline

/-- What is left of a line holds no line feed and does not end in a carriage return. -/
theorem dropEndWhile_endsLine_clean {text line : List Char} (h : line ∈ lines text) :
    '\n' ∉ dropEndWhile endsLine line ∧
      (dropEndWhile endsLine line).getLast? ≠ some '\r' := by
  obtain ⟨body, hbody, -, hdrop⟩ := exists_eq_append_feed h
  rw [hdrop]
  constructor
  · intro hmem
    exact hbody ((List.rdropWhile_prefix (· == '\r') body).mem hmem)
  · intro hlast
    obtain ⟨hne, hreturn⟩ := List.mem_getLast?_eq_getLast hlast
    exact List.rdropWhile_last_not (· == '\r') body hne (beq_of_eq hreturn.symm)

-- ── The lines that are looked up ────────────────────────────────────────────────────

/-- Looking a line up. -/
theorem line?_succ (source : String) (i : Nat) :
    line? source (i + 1) = (lines source.toList)[i]?.map fun line =>
      String.ofList (dropEndWhile endsLine line) :=
  rfl

/-- A line that is looked up holds no line feed and does not end in a carriage return. -/
theorem clean_of_line? {source line : String} {n : Nat} (h : line? source n = some line) :
    '\n' ∉ line.toList ∧ line.toList.getLast? ≠ some '\r' := by
  cases n with
  | zero => exact nomatch h
  | succ i =>
      rw [line?_succ] at h
      obtain ⟨whole, hwhole, rfl⟩ := Option.map_eq_some_iff.mp h
      rw [String.toList_ofList]
      exact dropEndWhile_endsLine_clean (List.mem_of_getElem? hwhole)

/-- **Every text is the lines that are looked up in it, with their ends.** -/
theorem line?_splits (source : String) : SplitsIntoLines source where
  found n := by
    cases n with
    | zero => simp [line?]
    | succ i =>
        rw [line?_succ, Option.isSome_map, isSome_getElem?]
        show i < (lines source.toList).length ↔ _
        rw [length_lines]
        omega
  whole := by
    choose! returns hreturns using
      fun (i : Nat) (hi : i < (lines source.toList).length) => exists_getElem_lines_eq hi
    refine ⟨fun n => returns (n - 1), ?_⟩
    have hlines : lines source.toList = (List.range' 1 (lineCount source.toList)).map fun n =>
        ((line? source n).getD "").toList ++ List.replicate (returns (n - 1)) '\r' ++
          feedAt source.toList n := by
      refine List.ext_getElem ?_ fun i hi hi' => ?_
      · rw [List.length_map, List.length_range', length_lines]
      · rw [List.getElem_map, List.getElem_range', Nat.one_mul, Nat.add_comm 1 i, line?_succ,
          List.getElem?_eq_getElem hi, Option.map_some, Option.getD_some, String.toList_ofList,
          Nat.add_sub_cancel]
        exact hreturns i hi
    conv => lhs; rw [← flatten_splitAfter (· == '\n') source.toList]
    exact congrArg List.flatten hlines
  clean _ _ := clean_of_line?

-- a line of carriage returns, and one without a line feed, are lines without text
example : (List.range 6).map (line? "a\r\r\n\n\r") =
    [none, some "a", some "", some "", none, none] := by
  decide

end KindLex.Text
