import KindLex.Device
import KindLex.Diagnostic
import KindLex.Failure
import KindLex.Prompt
import KindLex.Scanner.Run
import KindLex.Table
import KindLex.Text.Utf8

/-!
# The command

Without an argument the command reads a program from a prompt; with one argument it reads a file.
It prints the table of tokens on standard output, and then a diagnostic for every error on standard
error.  A file with lexical errors makes the command end with status 65; a prompt never does.

What the command asks of the system that it runs on is a parameter, and so is the monad in which the
system does it.  A system of files, input and devices that are given beforehand says what the
command leaves behind.
-/

namespace KindLex.CommandLine

/-- What the arguments ask for. -/
inductive Mode where
  | prompt
  | file (path : String)
  | misuse
  deriving DecidableEq

/-- What some arguments ask for. -/
def Mode.ofArguments : List String → Mode
  | []     => .prompt
  | [path] => .file path
  | _      => .misuse

/-- What the command asks of the system that it runs on. -/
structure System (m : Type → Type) where
  /-- The bytes of the file at a path. -/
  readFile : String → ExceptT IoCause m (List UInt8)
  /-- Standard input. -/
  input    : m Reader
  /-- Standard output. -/
  out      : Writer m IoCause
  /-- Standard error. -/
  err      : Writer m IoCause

/-- The two streams that the command writes to. -/
inductive Stream where
  | out | err
  deriving DecidableEq

/-- Why the command does not go on. -/
inductive Stop where
  | failure (failure : Failure)
  /-- A line that is to be printed is not taken. -/
  | unprintable (cause : IoCause)

/-- How the command ends. -/
inductive Ending where
  | exit (code : Nat)
  /-- The process panics, as it cannot print to a stream. -/
  | panic (stream : Stream) (cause : IoCause)
  deriving DecidableEq

/-- The exit status of the process. -/
def Ending.status : Ending → Nat
  | .exit code => code
  | .panic _ _ => 101

/-- The words in which a panic is reported. -/
def Ending.panicMessage? : Ending → Option String
  | .exit _           => none
  | .panic .out cause => some ("failed printing to stdout: " ++ cause.message)
  | .panic .err cause => some ("failed printing to stderr: " ++ cause.message)

/-- The invitation to type a program. -/
def banner : String :=
  "-- Write your Kind++ source code -- finish with a '#' on a line of its own\n"

/-- What is printed when no program was typed. -/
def notice : String :=
  "No source code to analyze\n"

/-- The heading of the table of a program that was typed, line by line. -/
def heading : List String :=
  ["=========================================\n",
   "             Token             | Lexeme\n",
   "=========================================\n"]

/-- The name under which diagnostics show a program that was typed. -/
def promptName : String := "shell"

/-- The exit status when a file has lexical errors. -/
def lexicalErrors : Nat := 65

section Running

variable {m : Type → Type} [Monad m] (system : System m)

/-- Writes the table of a program on standard output, and then its diagnostics on standard error.
    The answer says whether there are any. -/
def analyze (source name : String) : ExceptT IoCause m Bool := do
  let tokens := tokenize source
  Table.writeTo system.out tokens
  system.out.flush
  let errors := tokens.filter Token.isError
  Diagnostic.writeAllTo system.err source name errors
  return !errors.isEmpty

/-- The command with a file. -/
def runFile (path : String) : ExceptT Stop m Nat := do
  let bytes ← (system.readFile path).adapt fun cause => .failure (.unreadableFile path cause)
  let source := String.ofList (Text.Utf8.decodeLossy bytes)
  let hasErrors ← (analyze system source path).adapt fun cause => .failure (.unwritableOutput cause)
  return if hasErrors then lexicalErrors else 0

/-- Prints a line on standard output. -/
def printLine (line : String) : ExceptT Stop m Unit :=
  (system.out.put line).adapt .unprintable

/-- Reads a program from standard input. -/
def readProgram : ExceptT Stop m (Option String) :=
  ExceptT.mk do
    let (result, _) := Prompt.readFrom (← system.input)
    return result.mapError fun cause => .failure (.unreadableInput cause)

/-- The command with a prompt. -/
def runPrompt : ExceptT Stop m Nat := do
  printLine system banner
  match ← readProgram system with
  | none         => printLine system notice
  | some program => do
      heading.forM (printLine system)
      let _ ← (analyze system program promptName).adapt fun cause =>
        .failure (.unwritableOutput cause)
  return 0

/-- The command with what its arguments ask for. -/
def runMode : Mode → ExceptT Stop m Nat
  | .prompt    => runPrompt system
  | .file path => runFile system path
  | .misuse    => throw (.failure .usage)

/-- How the command ends; a failure is reported on standard error. -/
def finish : Except Stop Nat → m Ending
  | .ok code                    => return .exit code
  | .error (.unprintable cause) => return .panic .out cause
  | .error (.failure failure)   => do
      match ← (system.err.put (failure.message ++ "\n")).run with
      | .ok ()        => return .exit failure.exitCode
      | .error cause  => return .panic .err cause

/-- The command. -/
def run (arguments : List String) : m Ending := do
  finish system (← (runMode system (.ofArguments arguments)).run)

end Running

-- ── What the command leaves behind ──────────────────────────────────────────────────

/-- What the command finds around it. -/
structure Surroundings where
  /-- The bytes of the file at a path. -/
  readFile : String → Except IoCause (List UInt8)
  /-- Standard input. -/
  input    : Reader
  /-- The device of standard output. -/
  stdout   : Behaviour
  /-- The room of the buffer of standard output. -/
  room     : Nat
  /-- The device of standard error. -/
  stderr   : Behaviour

/-- The streams of the process. -/
structure Streams where
  out : LineBuffer
  err : Device

/-- Standard output, as a part of the streams. -/
def Streams.outPart : Part Streams LineBuffer where
  get streams := streams.out
  set streams out := { streams with out }
  get_set _ _ := rfl
  set_get _ := rfl
  set_set _ _ _ := rfl

/-- Standard error, as a part of the streams. -/
def Streams.errPart : Part Streams Device where
  get streams := streams.err
  set streams err := { streams with err }
  get_set _ _ := rfl
  set_get _ := rfl
  set_set _ _ _ := rfl

namespace Surroundings

/-- The streams before the command has written anything. -/
def streams (around : Surroundings) : Streams :=
  ⟨.fresh around.room around.stdout, .fresh around.stderr⟩

/-- The system that consists of these surroundings. -/
def system (around : Surroundings) : System (StateM Streams) where
  readFile path := ExceptT.mk (pure (around.readFile path))
  input := pure around.input
  out := Streams.outPart.writer LineBuffer.writer
  err := Streams.errPart.writer Device.writer

end Surroundings

/-- What the command leaves behind. -/
structure Report where
  ending : Ending
  stdout : Device
  /-- Standard error, before a panic is reported on it. -/
  stderr : Device

/-- What the command leaves behind in some surroundings. -/
def report (arguments : List String) (around : Surroundings) : Report :=
  match (run around.system arguments).run around.streams with
  | (ending, streams) => ⟨ending, streams.out.close, streams.err⟩

end KindLex.CommandLine
