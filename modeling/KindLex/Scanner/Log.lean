import KindLex.Scanner.Run

/-!
# The log of a run

A run over a text leaves a record when it opens, one for each token but the last, and one when it
is done.  A log has a threshold and keeps the records that are at least as severe.
-/

namespace KindLex

/-- How severe a record is, the most severe first. -/
inductive Level where
  | error | warn | info | debug | trace
  deriving DecidableEq

namespace Level

/-- The name of a level. -/
def name : Level → String
  | .error => "ERROR"
  | .warn  => "WARN"
  | .info  => "INFO"
  | .debug => "DEBUG"
  | .trace => "TRACE"

/-- The place of a level, counted from the most severe. -/
def rank : Level → Nat
  | .error => 0
  | .warn  => 1
  | .info  => 2
  | .debug => 3
  | .trace => 4

/-- Whether a threshold lets records of a level pass. -/
def admits (threshold level : Level) : Bool :=
  level.rank ≤ threshold.rank

end Level

/-- What happens in a run. -/
inductive Event where
  /-- The run opens on a text of so many bytes. -/
  | opened (bytes : Nat)
  /-- A token with an error comes out. -/
  | lexicalError (line : Nat) (lexeme : String) (cause : LexicalError)
  /-- A token without an error comes out. -/
  | token (kind : Kind) (lexeme : String) (line : Nat)
  /-- The run is done. -/
  | completed (tokens errors : Nat)
  deriving DecidableEq

namespace Event

/-- What happens when a token comes out; the end of the text is no event. -/
def ofToken? (t : Token) : Option Event :=
  match t.error? with
  | some cause => some (.lexicalError t.line t.lexeme cause)
  | none       => if t.isEof then none else some (.token t.kind t.lexeme t.line)

/-- How severe an event is. -/
def level : Event → Level
  | .opened _           => .debug
  | .lexicalError _ _ _ => .debug
  | .token _ _ _        => .trace
  | .completed _ _      => .debug

/-- The span that an event opens. -/
def span? : Event → Option String
  | .opened _ => some "scan"
  | _         => none

/-- The named values that the record of an event shows. -/
def fields : Event → List (String × String)
  | .opened bytes => [("len", toString bytes)]
  | .lexicalError line lexeme cause =>
      [("message", "lexical error"), ("line", toString line), ("lexeme", lexeme),
       ("error", cause.message)]
  | .token kind lexeme line =>
      [("message", "token"), ("kind", kind.name), ("lexeme", lexeme), ("line", toString line)]
  | .completed tokens errors =>
      [("message", "scan complete"), ("tokens", toString tokens), ("errors", toString errors)]

end Event

/-- The events of a run that pass a threshold, in order. -/
structure Log where
  threshold : Level
  events    : Array Event

namespace Log

/-- The log that holds nothing yet. -/
def empty (threshold : Level) : Log :=
  ⟨threshold, #[]⟩

/-- Adds an event if the threshold lets it pass. -/
def add (log : Log) (event : Event) : Log :=
  if log.threshold.admits event.level then { log with events := log.events.push event } else log

/-- Adds what happens when a token comes out. -/
def addToken (log : Log) (t : Token) : Log :=
  match Event.ofToken? t with
  | some event => log.add event
  | none       => log

end Log

namespace Scanner

/-- All tokens ahead, each one logged as it comes out. -/
def collectLogged (s : Scanner) (log : Log) : List Token × Log :=
  match h : s.next? with
  | none            => ([], log)
  | some (token, t) =>
      have : t.remaining < s.remaining := remaining_lt_of_next?_eq_some h
      let (tokens, last) := collectLogged t (log.addToken token)
      (token :: tokens, last)
termination_by s.remaining

end Scanner

/-- The tokens of a text, and the log of the run at a threshold. -/
def tokenizeLogged (threshold : Level) (source : String) : List Token × Log :=
  let opened := (Log.empty threshold).add (.opened source.utf8ByteSize)
  let (tokens, log) := (Scanner.ofText source).collectLogged opened
  (tokens, log.add (.completed tokens.length (tokens.countP Token.isError)))

end KindLex
