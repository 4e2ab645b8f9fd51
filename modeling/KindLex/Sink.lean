import KindLex.Writer

/-!
# Sinks

A sink takes text, as bytes, until its room is used up.  A text that does not fit is written as far
as it does, and nothing is written after it.
-/

namespace KindLex

/-- A place to write to: the bytes it still has room for, without bound if there is no number, and
    the bytes written so far. -/
structure Sink where
  room    : Option Nat
  written : ByteArray

/-- Why a sink takes no more. -/
inductive WriteError where
  /-- Its room is used up. -/
  | full
  deriving DecidableEq

/-- The words for a write error. -/
def WriteError.message : WriteError → String
  | .full => "failed to write whole buffer"

namespace Sink

/-- A sink that holds nothing yet. -/
def empty (room : Option Nat) : Sink :=
  ⟨room, ByteArray.empty⟩

/-- The sink after a text, and the error if not all of it found room. -/
def put (sink : Sink) (text : String) : Sink × Option WriteError :=
  let bytes := text.toUTF8
  match sink.room with
  | none      => (⟨none, sink.written ++ bytes⟩, none)
  | some room =>
      if bytes.size ≤ room then (⟨some (room - bytes.size), sink.written ++ bytes⟩, none)
      else (⟨some 0, sink.written ++ bytes.extract 0 room⟩, some .full)

/-- Sinks as writers: they hold nothing back. -/
def writer : Writer (StateM Sink) WriteError where
  put text := actOn fun sink =>
    match sink.put text with
    | (after, none)       => (.ok (), after)
    | (after, some error) => (.error error, after)
  flush := pure ()

/-- The sink after some writing, and the error if not all of it found room. -/
def after (sink : Sink) (writing : ExceptT WriteError (StateM Sink) Unit) :
    Sink × Option WriteError :=
  match runOn writing sink with
  | (.ok (), after)       => (after, none)
  | (.error error, after) => (after, some error)

end Sink

end KindLex
