import KindLex.Proofs.Classification
import KindLex.Scanner.Log
import Mathlib.Data.List.Forall2

/-!
# What the log tells of a run

The record of a token goes by the value that the token carries, while the count of errors at the end
goes by the kinds of the tokens; and the log sees the tokens one by one while they come out.  This
file shows that the log tells the run nevertheless: a record for each token in its order, a right
count, and at every threshold the same log with the less severe records left out.

* **`gains_tokenizeLogged`**: the events of a run at a threshold.
* **`forall₂_tells`**: the records that tokens leave.
* **`tokenizeLogged_law`**: the log of a run over any source.
-/

namespace KindLex

open Scanner

/-- What is seen of an event: its level, the span that it opens, and its named values. -/
structure Record where
  level  : Level
  span   : Option String
  fields : List (String × String)
  deriving DecidableEq

/-- The record of an event. -/
def Event.record (event : Event) : Record :=
  ⟨event.level, event.span?, event.fields⟩

/-- The records that a run over a source leaves in a log with a threshold. -/
def recordsAt (threshold : Level) (source : String) : List Record :=
  (tokenizeLogged threshold source).2.events.toList.map Event.record

/-- `Tells t record`: the record says that the token came out. -/
inductive Tells : Token → Record → Prop where
  | error {t cause} (hkind : t.kind = .error) (hcause : t.literal = some (.error cause)) :
      Tells t ⟨.debug, none, [("message", "lexical error"), ("line", toString t.line),
        ("lexeme", t.lexeme), ("error", cause.message)]⟩
  | token {t} (hkind : t.kind ≠ .error) :
      Tells t ⟨.trace, none, [("message", "token"), ("kind", t.kind.name), ("lexeme", t.lexeme),
        ("line", toString t.line)]⟩

/-- Whether a record says that a token with an error came out. -/
def Record.isLexicalError (record : Record) : Bool :=
  record.fields.contains ("message", "lexical error")

/-- The log of a run over a source. -/
structure LogLaw (source : String) : Prop where
  /-- The tokens are the same whatever the log keeps. -/
  tokens : ∀ threshold, (tokenizeLogged threshold source).1 = tokenize source
  /-- The whole log: the span, a record for each token but the last, and the count of both. -/
  full : ∃ told,
    List.Forall₂ Tells ((tokenize source).filter fun t => t.kind ≠ .eof) told ∧
      recordsAt .trace source =
        ⟨.debug, some "scan", [("len", toString source.utf8ByteSize)]⟩ ::
          (told ++ [⟨.debug, none, [("message", "scan complete"),
            ("tokens", toString (tokenize source).length),
            ("errors", toString (told.countP Record.isLexicalError))]⟩])
  /-- A log with a threshold is the whole one without what is less severe. -/
  threshold : ∀ threshold, recordsAt threshold source =
    (recordsAt .trace source).filter fun record => record.level.rank ≤ threshold.rank

-- ── Logs ────────────────────────────────────────────────────────────────────────────

/-- `log.Gains events later`: the later log is the log with those of the events that its threshold
    lets pass. -/
structure Log.Gains (log : Log) (events : List Event) (later : Log) : Prop where
  threshold : later.threshold = log.threshold
  events : later.events.toList =
    log.events.toList ++ events.filter fun event => log.threshold.admits event.level

theorem Log.Gains.refl (log : Log) : log.Gains [] log :=
  ⟨rfl, (List.append_nil _).symm⟩

theorem Log.Gains.trans {log later last : Log} {events events' : List Event}
    (h : log.Gains events later) (h' : later.Gains events' last) :
    log.Gains (events ++ events') last := by
  refine ⟨h'.threshold.trans h.threshold, ?_⟩
  rw [h'.events, h.events, h.threshold, List.filter_append, List.append_assoc]

theorem Log.gains_add (log : Log) (event : Event) : log.Gains [event] (log.add event) := by
  rw [add]
  split
  · rename_i hadmits
    exact ⟨rfl, by simp [hadmits]⟩
  · rename_i hadmits
    exact ⟨rfl, by simp [hadmits]⟩

theorem Log.gains_addToken (log : Log) (t : Token) :
    log.Gains (Event.ofToken? t).toList (log.addToken t) := by
  rw [addToken]
  cases Event.ofToken? t with
  | none => exact .refl log
  | some event => exact log.gains_add event

theorem Log.gains_foldl (log : Log) (tokens : List Token) :
    log.Gains (tokens.filterMap Event.ofToken?) (tokens.foldl Log.addToken log) := by
  induction tokens generalizing log with
  | nil => exact .refl log
  | cons t tokens ih =>
      have hgains := (log.gains_addToken t).trans (ih (log.addToken t))
      rw [List.foldl_cons, List.filterMap_cons]
      cases htold : Event.ofToken? t <;> rw [htold] at hgains <;> exact hgains

-- ── Runs with a log ─────────────────────────────────────────────────────────────────

namespace Scanner

/-- A run with a log is the run, and its tokens are logged in their order. -/
theorem collectLogged_eq (s : Scanner) (log : Log) :
    s.collectLogged log = (s.collect.1, s.collect.1.foldl Log.addToken log) := by
  fun_induction collectLogged s log with
  | case1 s log hnone =>
      rw [collect_of_next?_eq_none hnone]
      rfl
  | case2 s log token t hsome hlt tokens last hrun ih =>
      rw [hrun] at ih
      obtain ⟨rfl, rfl⟩ := Prod.mk.inj ih
      rw [collect_of_next? hsome]
      rfl

end Scanner

/-- What happens in a run over a source. -/
def eventsOf (source : String) : List Event :=
  .opened source.utf8ByteSize :: ((tokenize source).filterMap Event.ofToken? ++
    [.completed (tokenize source).length ((tokenize source).countP Token.isError)])

/-- A run with a log makes the tokens of the source. -/
theorem tokenizeLogged_fst (threshold : Level) (source : String) :
    (tokenizeLogged threshold source).1 = tokenize source := by
  rw [tokenizeLogged, collectLogged_eq]
  rfl

/-- **The events of a run** go into the log as far as its threshold lets them pass. -/
theorem gains_tokenizeLogged (threshold : Level) (source : String) :
    (Log.empty threshold).Gains (eventsOf source) (tokenizeLogged threshold source).2 := by
  rw [tokenizeLogged, collectLogged_eq]
  have hopened := (Log.empty threshold).gains_add (.opened source.utf8ByteSize)
  exact hopened.trans ((Log.gains_foldl _ (tokenize source)).trans (Log.gains_add _ _))

theorem recordsAt_eq (threshold : Level) (source : String) :
    recordsAt threshold source =
      ((eventsOf source).map Event.record).filter fun r => r.level.rank ≤ threshold.rank := by
  rw [recordsAt, (gains_tokenizeLogged threshold source).events, List.filter_map]
  rfl

/-- Every level is at least as severe as the last one. -/
theorem Level.rank_le_trace (level : Level) : level.rank ≤ Level.trace.rank := by
  cases level <;> decide

theorem recordsAt_trace (source : String) :
    recordsAt .trace source = (eventsOf source).map Event.record := by
  rw [recordsAt_eq, List.filter_eq_self]
  exact fun record _ => decide_eq_true record.level.rank_le_trace

-- ── Records of tokens ───────────────────────────────────────────────────────────────

/-- The token that marks the end leaves no record, and any other token of a source leaves one. -/
theorem ofToken?_of_mem {source : String} {t : Token} (h : t ∈ tokenize source) :
    (t.kind = .eof → Event.ofToken? t = none) ∧
      (t.kind ≠ .eof → ∃ event, Event.ofToken? t = some event ∧ Tells t event.record) := by
  rw [Event.ofToken?]
  cases hcause : t.error? with
  | none =>
      have hkind := (error?_eq_none_iff h).mp hcause
      constructor
      · intro heof
        exact if_pos (beq_iff_eq.mpr heof)
      · intro heof
        exact ⟨_, if_neg (mt beq_iff_eq.mp heof), .token hkind⟩
  | some cause =>
      have hkind : t.kind = .error := by
        by_contra hkind
        rw [(error?_eq_none_iff h).mpr hkind] at hcause
        contradiction
      constructor
      · intro heof
        rw [hkind] at heof
        contradiction
      · intro _
        exact ⟨_, rfl, .error hkind (Token.error?_eq_some_iff.mp hcause)⟩

/-- **The records that tokens leave**, one each and in their order. -/
theorem forall₂_tells {source : String} {tokens : List Token}
    (h : ∀ t ∈ tokens, t ∈ tokenize source) :
    List.Forall₂ Tells (tokens.filter fun t => t.kind ≠ .eof)
      ((tokens.filterMap Event.ofToken?).map Event.record) := by
  induction tokens with
  | nil => exact .nil
  | cons t tokens ih =>
      have hlater := ih fun u hu => h u (List.mem_cons_of_mem _ hu)
      obtain ⟨hlast, hother⟩ := ofToken?_of_mem (h t List.mem_cons_self)
      by_cases heof : t.kind = .eof
      · rw [List.filter_cons_of_neg (by simpa using heof), List.filterMap_cons_none (hlast heof)]
        exact hlater
      · obtain ⟨event, hevent, htells⟩ := hother heof
        rw [List.filter_cons_of_pos (by simpa using heof), List.filterMap_cons_some hevent]
        exact .cons htells hlater

/-- A record says whether its token is an error. -/
theorem Tells.isLexicalError_eq {t : Token} {record : Record} (h : Tells t record) :
    record.isLexicalError = t.isError := by
  rw [Bool.eq_iff_iff, isError_iff]
  cases h with
  | error hkind => exact iff_of_true (by simp [Record.isLexicalError]) hkind
  | token hkind => exact iff_of_false (by simp [Record.isLexicalError]) hkind

theorem countP_of_tells {tokens : List Token} {told : List Record}
    (h : List.Forall₂ Tells tokens told) :
    told.countP Record.isLexicalError = tokens.countP Token.isError := by
  induction h with
  | nil => rfl
  | cons htells _ ih => rw [List.countP_cons, List.countP_cons, ih, htells.isLexicalError_eq]

/-- There are as many records of errors as there are errors. -/
theorem countP_isLexicalError {tokens : List Token} {told : List Record}
    (h : List.Forall₂ Tells (tokens.filter fun t => t.kind ≠ .eof) told) :
    told.countP Record.isLexicalError = tokens.countP Token.isError := by
  rw [countP_of_tells h, List.countP_filter]
  -- the token that marks the end is no error
  refine List.countP_congr fun t _ => ?_
  rw [Bool.and_eq_true, isError_iff, decide_eq_true_eq]
  exact and_iff_left_of_imp fun hkind => by simp [hkind]

/-- **The log of a run**, for every source. -/
theorem tokenizeLogged_law (source : String) : LogLaw source where
  tokens threshold := tokenizeLogged_fst threshold source
  full := by
    have htold := @forall₂_tells source (tokenize source) fun t ht => ht
    refine ⟨_, htold, ?_⟩
    rw [recordsAt_trace, eventsOf, countP_isLexicalError htold, List.map_cons, List.map_append]
    rfl
  threshold threshold := by rw [recordsAt_trace, recordsAt_eq]

end KindLex
