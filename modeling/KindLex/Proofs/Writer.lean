import KindLex.Diagnostic
import KindLex.Table

/-!
# What is written piece by piece

Rows and diagnostics are written in many pieces, and every piece is put where the writer puts it.
Whatever can be said of putting one text, and goes from two writings to one after the other, can be
said of the table and of the diagnostics as a whole.

* **`Writer.Law.forM`**: what is written in turn.
* **`Writer.Law.table`**, **`Writer.Law.diagnostics`**: the table and the diagnostics of any tokens.
* **`Writer.Law.part`**: what is written to a part of a state.
-/

namespace KindLex

variable {m : Type → Type} {ε : Type} [Monad m]

/-- A law of a writer: it says of each text what putting it does, and of what is written in two
    parts what it says of the whole. -/
structure Writer.Law (out : Writer m ε) (Writes : ExceptT ε m Unit → String → Prop) : Prop where
  nothing : Writes (pure ()) ""
  put     : ∀ text, Writes (out.put text) text
  bind    : ∀ {first second front behind}, Writes first front → Writes second behind →
    Writes (first >>= fun _ => second) (front ++ behind)

/-- All diagnostics are the diagnostics of the tokens, one behind the other. -/
theorem Diagnostic.join_allLines (source file : String) (tokens : List Token) :
    String.join (allLines tokens source file) =
      String.join (tokens.map fun t => String.join (lines t source file)) := by
  rw [allLines]
  induction tokens with
  | nil => rfl
  | cons t tokens ih =>
      rw [List.flatMap_cons, String.join_append, ih, List.map_cons, String.join_cons]

namespace Writer.Law

variable {out : Writer m ε} {Writes : ExceptT ε m Unit → String → Prop} (law : out.Law Writes)
include law

/-- **What is written in turn** is written as a whole. -/
theorem forM {α : Type} {write : α → ExceptT ε m Unit} {text : α → String}
    (h : ∀ item, Writes (write item) (text item)) (items : List α) :
    Writes (items.forM write) (String.join (items.map text)) := by
  induction items with
  | nil => exact law.nothing
  | cons item items ih =>
      rw [List.map_cons, String.join_cons]
      exact law.bind (h item) ih

theorem putAll (texts : List String) : Writes (out.putAll texts) (String.join texts) := by
  have h := law.forM law.put texts
  rw [List.map_id'] at h
  exact h

/-- **The table of any tokens** is written row by row. -/
theorem table (tokens : List Token) :
    Writes (Table.writeTo out tokens) (Table.text tokens) := by
  refine law.forM (fun t => ?_) tokens
  rw [← Table.join_rowPieces]
  exact law.putAll (Table.rowPieces t)

/-- The lines that show a token are written line by line. -/
theorem diagnostic (source file : String) (t : Token) :
    Writes (Diagnostic.writeTo out source file t)
      (String.join (Diagnostic.lines t source file)) := by
  rw [Diagnostic.writeTo, Diagnostic.lines]
  cases t.error? with
  | none => exact law.nothing
  | some cause =>
      dsimp only
      rw [← Diagnostic.join_blockPieces]
      exact law.forM law.putAll (Diagnostic.blockPieces cause t.line source file)

/-- **The diagnostics of any tokens** are written token by token. -/
theorem diagnostics (source file : String) (tokens : List Token) :
    Writes (Diagnostic.writeAllTo out source file tokens)
      (String.join (Diagnostic.allLines tokens source file)) := by
  rw [Diagnostic.join_allLines]
  exact law.forM (law.diagnostic source file) tokens

end Writer.Law

/-- A law of a writer on a part of a state: what it says of an action on the part. -/
theorem Writer.Law.part {σ τ : Type} {out : Writer (StateM τ) ε}
    {Writes : ExceptT ε (StateM τ) Unit → String → Prop} (law : out.Law Writes) (part : Part σ τ) :
    (part.writer out).Law fun writing text =>
      ∃ action, writing = part.on action ∧ Writes action text where
  nothing := ⟨pure (), (part.on_pure ()).symm, law.nothing⟩
  put text := ⟨out.put text, rfl, law.put text⟩
  bind := by
    rintro first second front behind ⟨action, rfl, h⟩ ⟨action', rfl, h'⟩
    exact ⟨_, part.on_bind action fun _ => action', law.bind h h'⟩

end KindLex
