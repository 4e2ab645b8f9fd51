/-!
# Writers

A writer takes text piece by piece.  What it does with the text is up to it, and in which monad it
does so; the first piece that it does not take ends the writing.  A writer over states says what
becomes of a state, and of those there are two in this library: sinks of bytes, and the streams of
a process.

* **`runOn_bind`**: what becomes of a state in two actions, one after the other.
* **`Part.on_bind`**: two actions on a part of a state are one.
-/

namespace KindLex

/-- A place to write to: what it does with a text, and with what it may hold back. -/
structure Writer (m : Type → Type) (ε : Type) where
  put   : String → ExceptT ε m Unit
  flush : ExceptT ε m Unit

/-- Writes some texts in turn. -/
def Writer.putAll {m : Type → Type} {ε : Type} [Monad m] (out : Writer m ε) (texts : List String) :
    ExceptT ε m Unit :=
  texts.forM out.put

-- ── Actions on states ───────────────────────────────────────────────────────────────

section Actions

variable {σ ε ε' α β : Type}

/-- The action that makes this of a state. -/
def actOn (act : σ → Except ε α × σ) : ExceptT ε (StateM σ) α :=
  ExceptT.mk act

/-- What an action makes of a state. -/
def runOn (action : ExceptT ε (StateM σ) α) (state : σ) : Except ε α × σ :=
  action.run.run state

@[simp] theorem runOn_actOn (act : σ → Except ε α × σ) (state : σ) :
    runOn (actOn act) state = act state :=
  rfl

@[simp] theorem runOn_pure (a : α) (state : σ) :
    runOn (pure a : ExceptT ε (StateM σ) α) state = (.ok a, state) :=
  rfl

/-- **An action behind another one** is left out where that one fails. -/
theorem runOn_bind (action : ExceptT ε (StateM σ) α) (next : α → ExceptT ε (StateM σ) β)
    (state : σ) :
    runOn (action >>= next) state =
      match runOn action state with
      | (.ok a, after)    => runOn (next a) after
      | (.error e, after) => (.error e, after) := by
  show (match runOn action state with
    | (result, after) => runOn (ExceptT.mk (ExceptT.bindCont next result)) after) = _
  rcases runOn action state with ⟨e | a, after⟩ <;> rfl

theorem runOn_adapt (f : ε → ε') (action : ExceptT ε (StateM σ) α) (state : σ) :
    runOn (ExceptT.adapt f action) state =
      ((runOn action state).1.mapError f, (runOn action state).2) :=
  rfl

/-- Actions that make the same of every state are one action. -/
theorem ext_runOn {action action' : ExceptT ε (StateM σ) α}
    (h : ∀ state, runOn action state = runOn action' state) : action = action' :=
  funext h

end Actions

-- ── Parts of states ─────────────────────────────────────────────────────────────────

/-- A part of a state, which can be replaced. -/
structure Part (σ τ : Type) where
  get : σ → τ
  set : σ → τ → σ
  get_set : ∀ state part, get (set state part) = part
  set_get : ∀ state, set state (get state) = state
  set_set : ∀ state part part', set (set state part) part' = set state part'

namespace Part

variable {σ τ ε α β : Type} (part : Part σ τ)

/-- An action on a part of a state. -/
def on (action : ExceptT ε (StateM τ) α) : ExceptT ε (StateM σ) α :=
  actOn fun state =>
    match runOn action (part.get state) with
    | (result, after) => (result, part.set state after)

/-- A writer on a part of a state. -/
def writer (out : Writer (StateM τ) ε) : Writer (StateM σ) ε where
  put text := part.on (out.put text)
  flush := part.on out.flush

theorem runOn_on (action : ExceptT ε (StateM τ) α) (state : σ) :
    runOn (part.on action) state =
      ((runOn action (part.get state)).1, part.set state (runOn action (part.get state)).2) :=
  rfl

theorem on_pure (a : α) : part.on (pure a : ExceptT ε (StateM τ) α) = pure a :=
  ext_runOn fun state => by rw [runOn_on, runOn_pure, runOn_pure, part.set_get]

/-- **Two actions on a part of a state**, one after the other, are one action on it. -/
theorem on_bind (action : ExceptT ε (StateM τ) α) (next : α → ExceptT ε (StateM τ) β) :
    (part.on action >>= fun a => part.on (next a)) = part.on (action >>= next) := by
  refine ext_runOn fun state => ?_
  rw [runOn_bind, runOn_on, runOn_on, runOn_bind]
  rcases runOn action (part.get state) with ⟨e | a, after⟩
  · rfl
  · show runOn (part.on (next a)) (part.set state after) = _
    rw [runOn_on, part.get_set, part.set_set]

end Part

end KindLex
