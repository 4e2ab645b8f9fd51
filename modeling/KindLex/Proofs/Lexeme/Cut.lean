import KindLex.Lexeme.Extent
import Mathlib.Data.List.TakeWhile

/-!
# Where a text is cut

`Lexeme.extent` says how far the lexeme at the start of a text goes by looking at characters one
after the other.  This file says the same by what stands on the two sides of the cut: each
constructor of `Cut lexeme rest` is one sort of lexeme, with what its right context must not be.

* **`cut_extent`**: a text is cut where `extent` says.
* **`extent_le_length`**: and that is not beyond its end.

What follows about a lexeme (that it is the longest one, that a leap over it misses no line feed,
what it is read as) goes by cases on the cut and not by the tests that `extent` makes.
-/

namespace KindLex.Lexeme

-- ── Runs ────────────────────────────────────────────────────────────────────────────

/-- Whether a run of characters with a property stops before a text. -/
def EndsRun (p : Char → Bool) (rest : List Char) : Prop :=
  ∀ c ∈ rest.head?, p c = false

theorem take_run (p : Char → Bool) (text : List Char) :
    text.take (run p text) = text.takeWhile p :=
  (List.prefix_iff_eq_take.mp (List.takeWhile_prefix p)).symm

theorem drop_run (p : Char → Bool) (text : List Char) :
    text.drop (run p text) = text.dropWhile p := by
  have happend : text.take (run p text) ++ text.drop (run p text)
      = text.takeWhile p ++ text.dropWhile p := by
    rw [List.take_append_drop, List.takeWhile_append_dropWhile]
  rw [take_run] at happend
  exact List.append_cancel_left happend

theorem run_append {p : Char → Bool} {body rest : List Char} (hbody : ∀ c ∈ body, p c = true)
    (hrest : EndsRun p rest) : run p (body ++ rest) = body.length := by
  have hnil : rest.takeWhile p = [] := by
    cases rest with
    | nil => rfl
    | cons c rest => exact List.takeWhile_cons_of_neg (by simp [hrest c rfl])
  rw [run, List.takeWhile_append_of_pos hbody, hnil, List.append_nil]

theorem endsRun_dropWhile (p : Char → Bool) (text : List Char) :
    EndsRun p (text.dropWhile p) := by
  intro c hc
  induction text with
  | nil => exact nomatch hc
  | cons d text ih =>
      by_cases hd : p d = true
      · rw [List.dropWhile_cons_of_pos hd] at hc
        exact ih hc
      · rw [List.dropWhile_cons_of_neg hd] at hc
        obtain rfl : d = c := by simpa using hc
        exact Bool.not_eq_true _ ▸ hd

theorem endsRun_cons {p : Char → Bool} {c : Char} (rest : List Char) (hc : p c = false) :
    EndsRun p (c :: rest) := by
  intro d hd
  obtain rfl : c = d := Option.some.inj hd
  exact hc

/-- There is one way to part a text where a run stops. -/
theorem run_unique {p : Char → Bool} {body body' rest rest' : List Char}
    (hbody : ∀ c ∈ body, p c = true) (hrest : EndsRun p rest)
    (hbody' : ∀ c ∈ body', p c = true) (hrest' : EndsRun p rest')
    (h : body ++ rest = body' ++ rest') : body = body' ∧ rest = rest' := by
  have hlength : body.length = body'.length := by
    rw [← run_append hbody hrest, h, run_append hbody' hrest']
  exact List.append_inj h hlength

/-- A run that stops is the longest one. -/
theorem length_le_of_endsRun {p : Char → Bool} {body rest w : List Char}
    (hrest : EndsRun p rest) (hpre : w <+: body ++ rest) (hw : ∀ c ∈ w, p c = true) :
    w.length ≤ body.length := by
  by_contra hlong
  -- the first character of `w` behind `body` is the first one of `rest`
  obtain ⟨v, rfl⟩ : body <+: w :=
    List.prefix_of_prefix_length_le (List.prefix_append body rest) hpre (by omega)
  cases v with
  | nil => simp at hlong
  | cons c v =>
      obtain ⟨tail, htail⟩ := (List.prefix_append_right_inj body).mp hpre
      have hfalse := hrest c (by rw [← htail]; rfl)
      have htrue := hw c (by simp)
      rw [hfalse] at htrue
      contradiction

-- ── Cuts ────────────────────────────────────────────────────────────────────────────

/-- `Cut lexeme rest`: in a text that goes on with `rest`, the lexeme ends where `rest` starts. -/
inductive Cut : (lexeme rest : List Char) → Prop where
  | string {content rest} (hcontent : '"' ∉ content) : Cut ('"' :: (content ++ ['"'])) rest
  | openString {content} (hcontent : '"' ∉ content) : Cut ('"' :: content) []
  | character (c rest) : Cut ['\'', c, '\''] rest
  | openCharacter {c rest} (hrest : rest.head? ≠ some '\'') : Cut ['\'', c] rest
  | apostrophe : Cut ['\''] []
  | farewell (rest) : Cut farewell rest
  /-- Digits, with no further digit and no fraction behind them. -/
  | integer {digits rest} (hne : digits ≠ []) (hdigits : ∀ c ∈ digits, c.isDigit = true)
      (hrest : EndsRun Char.isDigit rest)
      (hpoint : ∀ tail, rest = '.' :: tail → EndsRun Char.isDigit tail) : Cut digits rest
  /-- Digits on both sides of a point, with no further digit behind them. -/
  | real {whole fraction rest} (hne : whole ≠ []) (hwhole : ∀ c ∈ whole, c.isDigit = true)
      (hne' : fraction ≠ []) (hfraction : ∀ c ∈ fraction, c.isDigit = true)
      (hrest : EndsRun Char.isDigit rest) : Cut (whole ++ '.' :: fraction) rest
  /-- A word that does not begin a farewell, with nothing behind it that continues it. -/
  | word {c tail rest} (hstart : isWordStart c = true) (htail : ∀ d ∈ tail, isWordPart d = true)
      (hrest : EndsRun isWordPart rest) (hfarewell : ¬ farewell <+: c :: tail ++ rest) :
      Cut (c :: tail) rest
  /-- A mark, when none that is longer stands there. -/
  | mark {sign : Punctuation} {rest}
      (hlongest : ∀ other : Punctuation, other.spelling.toList <+: sign.spelling.toList ++ rest →
        other.spelling.toList.length ≤ sign.spelling.toList.length) :
      Cut sign.spelling.toList rest
  /-- A character that begins nothing. -/
  | stray {c rest} (hquote : c ≠ '"') (hapostrophe : c ≠ '\'') (hdigit : c.isDigit = false)
      (hstart : isWordStart c = false)
      (hmark : ∀ sign : Punctuation, ¬ sign.spelling.toList <+: c :: rest) : Cut [c] rest

/-- No lexeme is empty. -/
theorem Cut.ne_nil {lexeme rest : List Char} (h : Cut lexeme rest) : lexeme ≠ [] := by
  cases h with
  | integer hne => exact hne
  | real hne => exact List.append_ne_nil_of_left_ne_nil hne _
  | farewell => decide
  | @mark sign =>
      intro hnil
      have hlength := sign.length_spelling
      rw [hnil] at hlength
      exact absurd hlength (by decide)
  | _ => exact List.cons_ne_nil _ _

-- ── A text is cut where `extent` says ───────────────────────────────────────────────

/-- A cut of a text, found as two parts of it. -/
theorem Cut.of_append {text lexeme rest : List Char} {n : Nat} (h : Cut lexeme rest)
    (htext : text = lexeme ++ rest) (hn : n = lexeme.length) :
    Cut (text.take n) (text.drop n) := by
  subst htext hn
  rw [List.take_left, List.drop_left]
  exact h

theorem cut_string (rest : List Char) :
    Cut (('"' :: rest).take (stringExtent rest)) (('"' :: rest).drop (stringExtent rest)) := by
  by_cases hquote : '"' ∈ rest
  · obtain ⟨content, tail, rfl, hcontent⟩ := List.eq_append_cons_of_mem hquote
    have hrun : run (· != '"') (content ++ '"' :: tail) = content.length := by
      refine run_append (fun c hc => ?_) (endsRun_cons tail (by decide))
      exact bne_iff_ne.mpr fun h => hcontent (h ▸ hc)
    refine (@Cut.string content tail hcontent).of_append (by simp) ?_
    rw [stringExtent, if_pos hquote, hrun]
    simp
  · refine (Cut.openString hquote).of_append (by simp) ?_
    rw [stringExtent, if_neg hquote]
    rfl

theorem cut_character (rest : List Char) :
    Cut (('\'' :: rest).take (characterExtent rest)) (('\'' :: rest).drop (characterExtent rest)) := by
  unfold characterExtent
  split
  · exact Cut.apostrophe
  · exact Cut.character _ _
  · rename_i c tail htail
    refine @Cut.openCharacter c tail fun hhead => ?_
    cases tail with
    | nil => contradiction
    | cons d tail => exact htail tail (by rw [Option.some.inj hhead])

theorem cut_farewell {text : List Char} (h : farewell <+: text) :
    Cut (text.take farewell.length) (text.drop farewell.length) := by
  obtain ⟨rest, rfl⟩ := h
  exact (Cut.farewell rest).of_append rfl rfl

theorem cut_number {text : List Char} {c : Char} (hhead : text.head? = some c)
    (hc : c.isDigit = true) :
    Cut (text.take (numberExtent text)) (text.drop (numberExtent text)) := by
  have hwhole : ∀ d ∈ text.takeWhile Char.isDigit, d.isDigit = true :=
    fun d hd => List.mem_takeWhile_imp hd
  have hne : text.takeWhile Char.isDigit ≠ [] := by
    cases text with
    | nil => contradiction
    | cons d text =>
        obtain rfl : d = c := Option.some.inj hhead
        simp [hc]
  have hstop := endsRun_dropWhile Char.isDigit text
  have htext : text = text.takeWhile Char.isDigit ++ text.dropWhile Char.isDigit :=
    List.takeWhile_append_dropWhile.symm
  have hdigits : run Char.isDigit text = (text.takeWhile Char.isDigit).length := rfl
  rw [numberExtent]
  dsimp only
  rw [drop_run, hdigits]
  split
  · rename_i tail htail
    rw [htail] at htext
    by_cases hzero : run Char.isDigit tail = 0
    · rw [if_pos hzero]
      refine (Cut.integer hne hwhole (htail ▸ hstop) ?_).of_append htext rfl
      intro tail' htail'
      obtain rfl : tail = tail' := (List.cons.inj htail').2
      have := endsRun_dropWhile Char.isDigit tail
      rwa [← drop_run, hzero] at this
    · rw [if_neg hzero]
      have hne' : tail.takeWhile Char.isDigit ≠ [] :=
        fun h => hzero (List.length_eq_zero_iff.mpr h)
      refine (Cut.real hne hwhole hne' (fun d hd => List.mem_takeWhile_imp hd)
        (endsRun_dropWhile Char.isDigit tail)).of_append ?_ ?_
      · rw [List.append_assoc, List.cons_append, List.takeWhile_append_dropWhile]
        exact htext
      · simp only [run, List.length_append, List.length_cons]
        omega
  · rename_i hpoint
    refine (Cut.integer hne hwhole hstop ?_).of_append htext rfl
    intro tail htail
    exact absurd htail (hpoint tail)

theorem cut_word {c : Char} {rest : List Char} (hc : isWordStart c = true)
    (hfarewell : ¬ farewell <+: c :: rest) :
    Cut ((c :: rest).take (run isWordPart (c :: rest)))
      ((c :: rest).drop (run isWordPart (c :: rest))) := by
  have hpart : isWordPart c = true := by simp [isWordPart, hc]
  rw [take_run, drop_run, List.takeWhile_cons_of_pos hpart, List.dropWhile_cons_of_pos hpart]
  refine Cut.word hc (fun d hd => List.mem_takeWhile_imp hd) (endsRun_dropWhile _ _) ?_
  rwa [List.cons_append, List.takeWhile_append_dropWhile]

/-- No mark at the start of a text goes beyond its first two characters. -/
theorem spelling_prefix_take {sign : Punctuation} {text : List Char}
    (h : sign.spelling.toList <+: text) : sign.spelling.toList <+: text.take 2 := by
  refine List.prefix_take_iff.mpr ⟨h, ?_⟩
  rcases sign.length_spelling with hlength | hlength <;> omega

/-- Where the first two characters spell no mark, a mark has one character. -/
theorem length_spelling_of_none {sign : Punctuation} {text : List Char}
    (hnone : Punctuation.ofSpelling? (text.take 2) = none) (h : sign.spelling.toList <+: text) :
    sign.spelling.toList.length = 1 := by
  refine sign.length_spelling.resolve_right fun htwo => ?_
  have hpair : sign.spelling.toList = text.take 2 := by
    refine (spelling_prefix_take h).eq_of_length_le ?_
    rw [htwo]
    exact List.length_take_le _ _
  rw [Punctuation.ofSpelling?_eq_some_iff.mpr hpair] at hnone
  contradiction

theorem cut_mark {c : Char} {rest : List Char} (hquote : c ≠ '"') (hapostrophe : c ≠ '\'')
    (hdigit : c.isDigit = false) (hstart : isWordStart c = false) :
    Cut ((c :: rest).take (markExtent (c :: rest)))
      ((c :: rest).drop (markExtent (c :: rest))) := by
  cases hfind : Punctuation.ofSpelling? ((c :: rest).take 2) with
  | some sign =>
      have hsign := Punctuation.ofSpelling?_eq_some_iff.mp hfind
      have hextent : markExtent (c :: rest) = sign.spelling.toList.length := by
        rw [markExtent, hfind, hsign]
        rfl
      refine (@Cut.mark sign ((c :: rest).drop 2) ?_).of_append ?_ hextent
      · intro other hother
        rw [hsign, List.take_append_drop] at hother
        rw [hsign]
        exact (spelling_prefix_take hother).length_le
      · rw [hsign, List.take_append_drop]
  | none =>
      have hextent : markExtent (c :: rest) = 1 := by
        rw [markExtent, hfind]
        rfl
      by_cases hmark : ∃ sign : Punctuation, sign.spelling.toList <+: c :: rest
      · obtain ⟨sign, tail, htail⟩ := hmark
        have hlength := length_spelling_of_none hfind ⟨tail, htail⟩
        refine (@Cut.mark sign tail ?_).of_append htail.symm
          (hextent.trans hlength.symm)
        intro other hother
        rw [htail] at hother
        rw [length_spelling_of_none hfind hother, hlength]
      · refine (@Cut.stray c rest hquote hapostrophe hdigit hstart ?_).of_append rfl hextent
        exact fun sign h => hmark ⟨sign, h⟩

/-- **A text is cut where `extent` says.** -/
theorem cut_extent {text : List Char} (h : text ≠ []) :
    Cut (text.take (extent text)) (text.drop (extent text)) := by
  unfold extent
  split
  · contradiction
  · exact cut_string _
  · exact cut_character _
  · rename_i c rest hquote hapostrophe
    by_cases hfarewell : farewell <+: c :: rest
    · rw [if_pos (List.isPrefixOf_iff_prefix.mpr hfarewell)]
      exact cut_farewell hfarewell
    · rw [if_neg (by rwa [List.isPrefixOf_iff_prefix])]
      by_cases hdigit : c.isDigit = true
      · rw [if_pos hdigit]
        exact cut_number rfl hdigit
      · rw [if_neg hdigit]
        by_cases hstart : isWordStart c = true
        · rw [if_pos hstart]
          exact cut_word hstart hfarewell
        · rw [if_neg hstart]
          exact cut_mark hquote hapostrophe (Bool.not_eq_true _ ▸ hdigit)
            (Bool.not_eq_true _ ▸ hstart)

-- ── No lexeme goes beyond the text ──────────────────────────────────────────────────

theorem run_le_length (p : Char → Bool) (text : List Char) : run p text ≤ text.length :=
  (List.takeWhile_prefix p).length_le

theorem stringExtent_le (rest : List Char) : stringExtent rest ≤ rest.length + 1 := by
  rw [stringExtent]
  split
  · rename_i hquote
    -- the quote is behind the run
    have hrun : run (· != '"') rest ≠ rest.length := by
      intro hall
      have hsame := (List.takeWhile_prefix (· != '"')).eq_of_length hall
      exact absurd (List.takeWhile_eq_self_iff.mp hsame '"' hquote) (by decide)
    have hle := run_le_length (· != '"') rest
    omega
  · exact Nat.le_refl _

theorem characterExtent_le (rest : List Char) : characterExtent rest ≤ rest.length + 1 := by
  unfold characterExtent
  split <;> simp

theorem numberExtent_le (text : List Char) : numberExtent text ≤ text.length := by
  have hwhole := run_le_length Char.isDigit text
  rw [numberExtent]
  dsimp only
  split
  · rename_i tail htail
    have hlength := congrArg List.length htail
    rw [List.length_drop, List.length_cons] at hlength
    have hfraction := run_le_length Char.isDigit tail
    split <;> omega
  · exact hwhole

theorem markExtent_le (c : Char) (rest : List Char) :
    markExtent (c :: rest) ≤ (c :: rest).length := by
  rw [markExtent]
  split
  · exact List.length_take_le' _ _
  · exact Nat.le_add_left 1 _

/-- No lexeme goes beyond the text that it starts. -/
theorem extent_le_length (text : List Char) : extent text ≤ text.length := by
  unfold extent
  split
  · exact Nat.le_refl 0
  · exact stringExtent_le _
  · exact characterExtent_le _
  · split
    · rename_i hfarewell
      exact (List.isPrefixOf_iff_prefix.mp hfarewell).length_le
    · split
      · exact numberExtent_le _
      · split
        · exact run_le_length _ _
        · exact markExtent_le _ _

end KindLex.Lexeme
