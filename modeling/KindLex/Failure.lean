import KindLex.SystemError
import KindLex.Text.Quoted

/-!
# Failures of the command

What can stop the command before it has done its work.  Lexical errors are no failures: they are
tokens, and the command reports them.
-/

namespace KindLex

/-- Why the command gave up. -/
inductive Failure where
  /-- The file named on the command line cannot be read. -/
  | unreadableFile (path : String) (cause : IoCause)
  /-- The program cannot be read from standard input. -/
  | unreadableInput (cause : IoCause)
  /-- The table cannot be written to standard output. -/
  | unwritableOutput (cause : IoCause)
  /-- The command line names more than one file. -/
  | usage
  deriving DecidableEq

namespace Failure

/-- The line that the command leaves on standard error. -/
def message : Failure → String
  | .unreadableFile path cause => "could not read " ++ Text.quoted path ++ ": " ++ cause.message
  | .unreadableInput cause     => "could not read standard input: " ++ cause.message
  | .unwritableOutput cause    => "could not write output: " ++ cause.message
  | .usage                     => "Usage: kindpp [script]"

/-- The exit status of a command that failed: 64 for a wrong command line, 66 for input that
    cannot be read, 74 for output that cannot be written. -/
def exitCode : Failure → Nat
  | .usage              => 64
  | .unreadableFile _ _ => 66
  | .unreadableInput _  => 66
  | .unwritableOutput _ => 74

/-- What reading or writing reported. -/
def cause? : Failure → Option IoCause
  | .unreadableFile _ cause => some cause
  | .unreadableInput cause  => some cause
  | .unwritableOutput cause => some cause
  | .usage                  => none

end Failure

end KindLex
