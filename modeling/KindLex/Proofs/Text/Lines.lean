import KindLex.Text.Lines
import Mathlib.Data.List.DropRight

/-!
# Where the lines of a text are

`Text.lines` cuts a text after every line feed, and whoever goes through the text counts the line
feeds on the way.  The two ways to number lines agree: the character behind some text is on the line
whose number is one more than the line feeds in that text.

* **`splitAfter_append`**: behind a separator the cutting starts anew.
* **`getElem?_lines`**: the line that a place of a text is on, found by counting.
* **`liesOn_iff`**: a character lies on one line, and that is where the count says.
* **`isSome_line?_iff`**: where a text ends, a line goes on unless the text is empty or its last
  character is a line feed.
* **`infix_of_line?`**: what stands between two line feeds is in the line that is looked up there.
-/

namespace KindLex.Text

-- ── Pieces ──────────────────────────────────────────────────────────────────────────

section Pieces

variable {α : Type} {isSeparator : α → Bool}

/-- A sequence behind which a piece starts: it is empty or ends in a separator. -/
def Complete (isSeparator : α → Bool) (items : List α) : Prop :=
  ∀ a ∈ items.getLast?, isSeparator a = true

theorem Complete.of_cons {a : α} {items : List α} (h : Complete isSeparator (a :: items)) :
    Complete isSeparator items :=
  fun b hb => h b (List.mem_getLast?_cons hb)

/-- What stands behind the last separator of a sequence. -/
def openPart (isSeparator : α → Bool) (items : List α) : List α :=
  items.rtakeWhile fun a => !isSeparator a

theorem isSeparator_of_mem_openPart {items : List α} {a : α} (h : a ∈ openPart isSeparator items) :
    isSeparator a = false := by
  simpa using List.mem_rtakeWhile_imp h

/-- Every sequence parts into what is complete and what stands behind its last separator. -/
theorem exists_eq_append_openPart (isSeparator : α → Bool) (items : List α) :
    ∃ full, Complete isSeparator full ∧ items = full ++ openPart isSeparator items := by
  refine ⟨items.rdropWhile fun a => !isSeparator a, ?_, List.rdropWhile_append_rtakeWhile.symm⟩
  intro a ha
  obtain ⟨hne, rfl⟩ := List.mem_getLast?_eq_getLast ha
  simpa using List.rdropWhile_last_not _ _ hne

/-- Nothing stands behind the last separator exactly in a complete sequence. -/
theorem openPart_eq_nil_iff {items : List α} :
    openPart isSeparator items = [] ↔ Complete isSeparator items := by
  constructor
  · intro h
    obtain ⟨full, hfull, hitems⟩ := exists_eq_append_openPart isSeparator items
    rw [hitems, h, List.append_nil]
    exact hfull
  · intro h
    refine List.rtakeWhile_eq_nil_iff.mpr fun hne => ?_
    simpa using h _ (List.getLast_mem_getLast? hne)

theorem splitAfter_ne_nil (isSeparator : α → Bool) {items : List α} (h : items ≠ []) :
    splitAfter isSeparator items ≠ [] := by
  intro hnil
  have hflatten := flatten_splitAfter isSeparator items
  rw [hnil] at hflatten
  exact h hflatten.symm

/-- No piece is empty. -/
theorem ne_nil_of_mem_splitAfter {items piece : List α} (h : piece ∈ splitAfter isSeparator items) :
    piece ≠ [] := by
  induction items generalizing piece with
  | nil => exact nomatch h
  | cons a items ih =>
      rw [splitAfter] at h
      split at h
      · rcases List.mem_cons.mp h with rfl | h
        · exact List.cons_ne_nil _ _
        · exact ih h
      · split at h
        · obtain rfl := List.mem_singleton.mp h
          exact List.cons_ne_nil _ _
        · rename_i hpieces
          rcases List.mem_cons.mp h with rfl | h
          · exact List.cons_ne_nil _ _
          · exact ih (hpieces ▸ List.mem_cons_of_mem _ h)

/-- A piece has a separator at its end only. -/
theorem isSeparator_of_mem_dropLast {items piece : List α}
    (h : piece ∈ splitAfter isSeparator items) {a : α} (ha : a ∈ piece.dropLast) :
    isSeparator a = false := by
  induction items generalizing piece with
  | nil => exact nomatch h
  | cons b items ih =>
      rw [splitAfter] at h
      split at h
      · rcases List.mem_cons.mp h with rfl | h
        · exact nomatch ha
        · exact ih h ha
      · rename_i hb
        split at h
        · obtain rfl := List.mem_singleton.mp h
          exact nomatch ha
        · rename_i piece' others hpieces
          rcases List.mem_cons.mp h with rfl | h
          · have hpiece : piece' ∈ splitAfter isSeparator items := hpieces ▸ List.mem_cons_self
            rw [List.dropLast_cons_of_ne_nil (ne_nil_of_mem_splitAfter hpiece)] at ha
            rcases List.mem_cons.mp ha with rfl | ha
            · exact Bool.not_eq_true _ ▸ hb
            · exact ih hpiece ha
          · exact ih (hpieces ▸ List.mem_cons_of_mem _ h) ha

/-- **Behind a separator the cutting starts anew.** -/
theorem splitAfter_append {items : List α} (h : Complete isSeparator items) (rest : List α) :
    splitAfter isSeparator (items ++ rest) =
      splitAfter isSeparator items ++ splitAfter isSeparator rest := by
  induction items with
  | nil => rfl
  | cons a items ih =>
      by_cases hitems : items = []
      · subst hitems
        have ha : isSeparator a = true := h a rfl
        simp [splitAfter, ha]
      · obtain ⟨piece, others, hpieces⟩ :=
          List.exists_cons_of_ne_nil (splitAfter_ne_nil isSeparator hitems)
        simp only [List.cons_append, splitAfter, ih h.of_cons, hpieces]
        split <;> rfl

/-- The pieces up to a separator are those of any sequence that begins with them. -/
theorem splitAfter_flatten_append {items piece : List α} {pieces others : List (List α)}
    (h : splitAfter isSeparator items = pieces ++ piece :: others)
    (hend : ∀ a ∈ piece.getLast?, isSeparator a = true) (rest : List α) :
    splitAfter isSeparator (pieces.flatten ++ (piece ++ rest)) =
      pieces ++ piece :: splitAfter isSeparator rest := by
  induction items generalizing pieces piece others with
  | nil => exact absurd h.symm (List.append_ne_nil_of_right_ne_nil _ (List.cons_ne_nil _ _))
  | cons a items ih =>
      rw [splitAfter] at h
      split at h
      · rename_i ha
        rcases List.cons_eq_append_iff.mp h with ⟨rfl, hpiece⟩ | ⟨pieces, rfl, hlater⟩
        · obtain ⟨rfl, -⟩ := List.cons.inj hpiece
          simp [splitAfter, ha]
        · simp [splitAfter, ha, ih hlater hend]
      · rename_i ha
        split at h
        · rcases List.cons_eq_append_iff.mp h with ⟨rfl, hpiece⟩ | ⟨pieces, -, hlater⟩
          · obtain ⟨rfl, -⟩ := List.cons.inj hpiece
            exact absurd (hend a rfl) ha
          · exact absurd hlater.symm
              (List.append_ne_nil_of_right_ne_nil _ (List.cons_ne_nil _ _))
        · rename_i first later hpieces
          have hfirst : first ≠ [] :=
            ne_nil_of_mem_splitAfter (hpieces ▸ List.mem_cons_self)
          rcases List.cons_eq_append_iff.mp h with ⟨rfl, hpiece⟩ | ⟨pieces, rfl, hlater⟩
          · obtain ⟨rfl, -⟩ := List.cons.inj hpiece
            obtain ⟨b, tail, rfl⟩ := List.exists_cons_of_ne_nil hfirst
            rw [List.getLast?_cons_cons] at hend
            have hih := @ih _ [] _ hpieces hend
            simp only [List.flatten_nil, List.nil_append, List.cons_append] at hih ⊢
            rw [splitAfter, if_neg ha, hih]
          · have hih := @ih _ (first :: pieces) _ (hpieces.trans (congrArg _ hlater)) hend
            simp only [List.flatten_cons, List.cons_append] at hih ⊢
            rw [splitAfter, if_neg ha, hih]

/-- What holds no separator goes in front of the first piece. -/
theorem splitAfter_append_of_open {items : List α} (hne : items ≠ [])
    (h : ∀ a ∈ items, isSeparator a = false) (rest : List α) :
    splitAfter isSeparator (items ++ rest) =
      (items ++ (splitAfter isSeparator rest).headD []) :: (splitAfter isSeparator rest).tail := by
  induction items with
  | nil => contradiction
  | cons a items ih =>
      have ha : isSeparator a = false := h a List.mem_cons_self
      by_cases hitems : items = []
      · subst hitems
        cases hrest : splitAfter isSeparator rest <;> simp [splitAfter, ha, hrest]
      · rw [List.cons_append, splitAfter, ha, ih hitems fun b hb => h b (List.mem_cons_of_mem _ hb)]
        rfl

/-- The first separator ends the first piece. -/
theorem splitAfter_separator_append {front : List α} (hfront : ∀ a ∈ front, isSeparator a = false)
    {a : α} (ha : isSeparator a = true) (rest : List α) :
    splitAfter isSeparator (front ++ a :: rest) =
      (front ++ [a]) :: splitAfter isSeparator rest := by
  by_cases hnil : front = []
  · subst hnil
    rw [List.nil_append, splitAfter, if_pos ha]
    rfl
  · rw [splitAfter_append_of_open hnil hfront, splitAfter, if_pos ha]
    rfl

/-- A complete sequence has as many pieces as separators. -/
theorem length_splitAfter {items : List α} (h : Complete isSeparator items) :
    (splitAfter isSeparator items).length = items.countP isSeparator := by
  induction items with
  | nil => rfl
  | cons a items ih =>
      by_cases ha : isSeparator a = true
      · rw [splitAfter, if_pos ha, List.length_cons, ih h.of_cons, List.countP_cons_of_pos ha]
      · have hitems : items ≠ [] := by
          rintro rfl
          exact ha (h a rfl)
        obtain ⟨piece, others, hpieces⟩ :=
          List.exists_cons_of_ne_nil (splitAfter_ne_nil isSeparator hitems)
        have hlength := ih h.of_cons
        rw [hpieces] at hlength
        rw [splitAfter, if_neg ha, hpieces, List.countP_cons_of_neg ha]
        exact hlength

/-- The pieces of a sequence, parted at the last separator of its front. -/
theorem exists_splitAfter_eq_append (isSeparator : α → Bool) (front rest : List α) :
    ∃ full, front = full ++ openPart isSeparator front ∧
      (splitAfter isSeparator full).length = front.countP isSeparator ∧
      splitAfter isSeparator (front ++ rest) =
        splitAfter isSeparator full ++ splitAfter isSeparator (openPart isSeparator front ++ rest) := by
  obtain ⟨full, hfull, hfront⟩ := exists_eq_append_openPart isSeparator front
  have hnone : (openPart isSeparator front).countP isSeparator = 0 := by
    refine List.countP_eq_zero.mpr fun a ha => ?_
    simp [isSeparator_of_mem_openPart ha]
  refine ⟨full, hfront, ?_, ?_⟩
  · rw [length_splitAfter hfull]
    conv => rhs; rw [hfront, List.countP_append, hnone, Nat.add_zero]
  · rw [← splitAfter_append hfull, ← List.append_assoc, ← hfront]

end Pieces

-- ── Lines ───────────────────────────────────────────────────────────────────────────

/-- The part of a text behind its last line feed. -/
def lastPart (text : List Char) : List Char :=
  openPart (· == '\n') text

/-- `LiesOn text place n`: the character at the place is on the `n`-th line of the text, the line
    feed at its end included.  Places are counted from zero and lines from one. -/
def LiesOn (text : List Char) (place n : Nat) : Prop :=
  ((lines text).take (n - 1)).flatten.length ≤ place ∧
    place < ((lines text).take n).flatten.length

/-- The lines of a text, parted where a line starts. -/
theorem exists_lines_eq_append (before rest : List Char) :
    ∃ full, before = full ++ lastPart before ∧ (lines full).length = before.count '\n' ∧
      lines (before ++ rest) = lines full ++ lines (lastPart before ++ rest) :=
  exists_splitAfter_eq_append (· == '\n') before rest

/-- **The line that a place of a text is on** is found by counting line feeds. -/
theorem getElem?_lines (before rest : List Char) :
    (lines (before ++ rest))[before.count '\n']? = (lines (lastPart before ++ rest)).head? := by
  obtain ⟨full, -, hlength, hlines⟩ := exists_lines_eq_append before rest
  rw [hlines, ← hlength, List.getElem?_append_right (Nat.le_refl _), Nat.sub_self,
    List.head?_eq_getElem?]

/-- A text that is not empty has a first line that is not empty. -/
theorem exists_lines_eq_cons {text : List Char} (h : text ≠ []) :
    ∃ line others, lines text = line :: others ∧ line ≠ [] := by
  obtain ⟨line, others, hlines⟩ :=
    List.exists_cons_of_ne_nil (splitAfter_ne_nil (· == '\n') h)
  exact ⟨line, others, hlines, ne_nil_of_mem_splitAfter (hlines ▸ List.mem_cons_self)⟩

/-- What holds no line feed goes in front of the first line. -/
theorem head?_lines_append {part rest : List Char} (hne : part ++ rest ≠ []) (hpart : '\n' ∉ part) :
    (lines (part ++ rest)).head? = some (part ++ (lines rest).headD []) := by
  by_cases hnil : part = []
  · subst hnil
    obtain ⟨line, others, hlines, -⟩ := exists_lines_eq_cons hne
    rw [List.nil_append] at hlines
    rw [List.nil_append, List.nil_append, hlines]
    rfl
  · have hopen : ∀ c ∈ part, (c == '\n') = false := by
      intro c hc
      exact beq_false_of_ne fun h => hpart (h ▸ hc)
    rw [lines, splitAfter_append_of_open hnil hopen]
    rfl

theorem newline_not_mem_lastPart (text : List Char) : '\n' ∉ lastPart text := by
  intro h
  exact absurd (isSeparator_of_mem_openPart h) (by decide)

theorem lastPart_eq_nil_iff {text : List Char} :
    lastPart text = [] ↔ text = [] ∨ text.getLast? = some '\n' := by
  rw [lastPart, openPart_eq_nil_iff, Complete]
  cases hlast : text.getLast? with
  | none => simp [List.getLast?_eq_none_iff.mp hlast]
  | some c =>
      have hne : text ≠ [] := by
        rintro rfl
        contradiction
      simp [hne]

/-- More text in front leaves what stands behind the last line feed at the end of a line. -/
theorem lastPart_suffix_append (before text : List Char) :
    lastPart text <:+ lastPart (before ++ text) := by
  rw [lastPart, lastPart, openPart, openPart, List.rtakeWhile, List.rtakeWhile, List.reverse_suffix,
    List.reverse_append, List.takeWhile_append]
  split
  · exact (List.takeWhile_prefix _).trans (List.prefix_append _ _)
  · exact List.prefix_refl _

/-- The line with the number that counting gives, as it is looked up. -/
theorem line?_eq {source : String} {before rest : List Char}
    (hsource : source.toList = before ++ rest) :
    line? source (1 + before.count '\n') =
      if lastPart before ++ rest = [] then none
      else some (String.ofList (dropEndWhile endsLine (lastPart before ++ (lines rest).headD []))) := by
  rw [Nat.add_comm, line?, hsource, getElem?_lines]
  split
  · rename_i hnil
    rw [hnil]
    rfl
  · rename_i hne
    rw [head?_lines_append hne (newline_not_mem_lastPart before)]
    rfl

/-- **Where a text parts, a line goes on** unless a line has just ended and nothing follows. -/
theorem isSome_line?_iff {source : String} {before rest : List Char}
    (hsource : source.toList = before ++ rest) :
    (line? source (1 + before.count '\n')).isSome = true ↔ lastPart before ++ rest ≠ [] := by
  rw [line?_eq hsource]
  split <;> simp_all

-- ── Places ──────────────────────────────────────────────────────────────────────────

/-- A character is on the line that counting the line feeds before it gives. -/
theorem liesOn_of_append {before rest : List Char} (hrest : rest ≠ []) :
    LiesOn (before ++ rest) before.length (1 + before.count '\n') := by
  obtain ⟨full, hbefore, hlength, hlines⟩ := exists_lines_eq_append before rest
  have hflatten : (lines full).flatten = full := flatten_splitAfter _ full
  have hparts : before.length = full.length + (lastPart before).length := by
    conv => lhs; rw [hbefore, List.length_append]
  obtain ⟨line, others, hline, hne⟩ := exists_lines_eq_cons hrest
  have hpos : 0 < line.length := List.length_pos_iff.mpr hne
  have hhead : (lines (lastPart before ++ rest)).take 1 = [lastPart before ++ line] := by
    rw [List.take_one, head?_lines_append (List.append_ne_nil_of_right_ne_nil _ hrest)
      (newline_not_mem_lastPart before), hline]
    rfl
  constructor
  · rw [Nat.add_sub_cancel_left, hlines, List.take_left' hlength, hflatten]
    omega
  · rw [hlines, Nat.add_comm, ← hlength, List.take_length_add_append, List.flatten_append, hflatten,
      hhead, List.flatten_singleton, List.length_append, List.length_append]
    omega

theorem LiesOn.le {text : List Char} {place m n : Nat} (hm : LiesOn text place m)
    (hn : LiesOn text place n) : m ≤ n := by
  by_contra hlt
  -- line `n` would end where line `m` starts, or before
  obtain ⟨between, hbetween⟩ : (lines text).take n <+: (lines text).take (m - 1) :=
    List.take_prefix_take_left (by omega)
  have hstart := hm.1
  have hend := hn.2
  rw [← hbetween, List.flatten_append, List.length_append] at hstart
  omega

/-- No character is on two lines. -/
theorem LiesOn.unique {text : List Char} {place m n : Nat} (hm : LiesOn text place m)
    (hn : LiesOn text place n) : m = n :=
  Nat.le_antisymm (hm.le hn) (hn.le hm)

/-- **A character lies on one line**, and that is where the count says. -/
theorem liesOn_iff {text : List Char} {place : Nat} (h : place < text.length) {n : Nat} :
    LiesOn text place n ↔ n = 1 + (text.take place).count '\n' := by
  have hrest : text.drop place ≠ [] := List.drop_eq_nil_iff.not.mpr (Nat.not_le.mpr h)
  have hplace := @liesOn_of_append (text.take place) _ hrest
  rw [List.take_append_drop, List.length_take_of_le (Nat.le_of_lt h)] at hplace
  constructor
  · intro hn
    exact hn.unique hplace
  · rintro rfl
    exact hplace

/-- A character is on the line that counting up to its end gives, or is the line feed in front of
    that line. -/
theorem liesOn_of_count {before rest : List Char} {c : Char} {n : Nat}
    (hn : n = 1 + (before ++ [c]).count '\n') :
    LiesOn (before ++ c :: rest) before.length (if c = '\n' then n - 1 else n) := by
  have hcount : (before ++ [c]).count '\n' = before.count '\n' + if c = '\n' then 1 else 0 := by
    rw [List.count_append, List.count_singleton]
    simp only [beq_iff_eq]
  have hline : (if c = '\n' then n - 1 else n) = 1 + before.count '\n' := by
    rw [hn, hcount]
    split <;> omega
  rw [hline]
  exact liesOn_of_append (List.cons_ne_nil c rest)

/-- Nothing up to a line feed is on the line that starts behind it. -/
theorem not_liesOn_of_newline {before rest : List Char} {place : Nat}
    (hplace : place ≤ before.length) :
    ¬ LiesOn (before ++ '\n' :: rest) place (1 + (before ++ ['\n']).count '\n') := by
  have hlt : place < (before ++ '\n' :: rest).length := by
    rw [List.length_append, List.length_cons]
    omega
  have hcount : (before.take place).count '\n' ≤ before.count '\n' :=
    (List.take_sublist _ _).count_le _
  rw [liesOn_iff hlt, List.take_append_of_le_length hplace, List.count_append,
    List.count_singleton_self]
  omega

-- ── What is in the line that is looked up ───────────────────────────────────────────

/-- What is kept of a text is kept in front of more text. -/
theorem dropEndWhile_prefix_append (p : Char → Bool) (text more : List Char) :
    dropEndWhile p text <+: dropEndWhile p (text ++ more) := by
  rw [dropEndWhile, dropEndWhile, List.reverse_append, List.dropWhile_append]
  split
  · exact List.prefix_refl _
  · rw [List.reverse_append, List.reverse_reverse]
    exact (List.rdropWhile_prefix p text).trans (List.prefix_append text _)

/-- What is kept of the end of a text is kept of the text. -/
theorem dropEndWhile_suffix_append (p : Char → Bool) (before text : List Char) :
    dropEndWhile p text <:+ dropEndWhile p (before ++ text) := by
  rw [dropEndWhile, dropEndWhile, List.reverse_append, List.dropWhile_append]
  split
  · rename_i hnil
    rw [List.isEmpty_iff.mp hnil]
    exact List.nil_suffix
  · rw [List.reverse_append, List.reverse_reverse]
    exact List.suffix_append _ _

theorem dropEndWhile_congr {p q : Char → Bool} {text : List Char} (h : ∀ c ∈ text, p c = q c) :
    dropEndWhile p text = dropEndWhile q text := by
  induction text using List.reverseRecOn with
  | nil => rfl
  | append_singleton text c ih =>
      have hc : p c = q c := h c (List.mem_append_right text List.mem_cons_self)
      have htext := ih fun d hd => h d (List.mem_append_left [c] hd)
      show (text ++ [c]).rdropWhile p = (text ++ [c]).rdropWhile q
      rw [List.rdropWhile_concat, List.rdropWhile_concat, hc]
      exact if_congr Iff.rfl htext rfl

/-- Where there is no line feed, a line ends in carriage returns at most. -/
theorem dropEndWhile_endsLine {text : List Char} (h : '\n' ∉ text) :
    dropEndWhile endsLine text = dropEndWhile (· == '\r') text := by
  refine dropEndWhile_congr fun c hc => ?_
  have hfeed : (c == '\n') = false := beq_false_of_ne fun heq => h (heq ▸ hc)
  rw [endsLine, hfeed, Bool.false_or]

/-- **What ends a part of a line is in the line that is looked up**, but for carriage returns at
    its end. -/
theorem infix_of_line? {source : String} {before rest tail : List Char}
    (hsource : source.toList = before ++ rest) (hne : lastPart before ≠ [])
    (htail : tail <:+ lastPart before) :
    ∃ line, line? source (1 + before.count '\n') = some line ∧
      dropEndWhile (· == '\r') tail <:+: line.toList := by
  have hopen : lastPart before ++ rest ≠ [] := List.append_ne_nil_of_left_ne_nil hne rest
  obtain ⟨front, hfront⟩ := htail
  have hfeed : '\n' ∉ tail := fun h =>
    newline_not_mem_lastPart before (hfront ▸ List.mem_append_right front h)
  refine ⟨_, (line?_eq hsource).trans (if_neg hopen), ?_⟩
  rw [String.toList_ofList, ← dropEndWhile_endsLine hfeed, ← hfront]
  exact (dropEndWhile_suffix_append endsLine front tail).isInfix.trans
    (dropEndWhile_prefix_append endsLine (front ++ tail) _).isInfix

end KindLex.Text
