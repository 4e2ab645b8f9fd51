/-!
# Errors of the operating system

The conditions that reading and writing meet, with their numbers and the words that go with them,
and the causes of failure that input and output report.
-/

namespace KindLex

/-- A condition that the operating system reports. -/
inductive SystemError where
  | notPermitted | noSuchFile | inputOutput | accessDenied | notADirectory | isADirectory
  | noSpaceLeft | brokenPipe
  deriving DecidableEq

namespace SystemError

/-- Every condition. -/
def all : List SystemError :=
  [.notPermitted, .noSuchFile, .inputOutput, .accessDenied, .notADirectory, .isADirectory,
   .noSpaceLeft, .brokenPipe]

/-- The number of a condition. -/
def code : SystemError → Nat
  | .notPermitted  => 1
  | .noSuchFile    => 2
  | .inputOutput   => 5
  | .accessDenied  => 13
  | .notADirectory => 20
  | .isADirectory  => 21
  | .noSpaceLeft   => 28
  | .brokenPipe    => 32

/-- The words for a condition. -/
def text : SystemError → String
  | .notPermitted  => "Operation not permitted"
  | .noSuchFile    => "No such file or directory"
  | .inputOutput   => "Input/output error"
  | .accessDenied  => "Permission denied"
  | .notADirectory => "Not a directory"
  | .isADirectory  => "Is a directory"
  | .noSpaceLeft   => "No space left on device"
  | .brokenPipe    => "Broken pipe"

/-- The condition with a given number. -/
def ofCode? (n : Nat) : Option SystemError :=
  all.find? (·.code == n)

end SystemError

/-- Why reading or writing failed. -/
inductive IoCause where
  /-- The operating system refused. -/
  | system (error : SystemError)
  /-- What was read is no text. -/
  | invalidText
  /-- Some other cause, in words. -/
  | other (text : String)
  deriving DecidableEq

/-- The words for a cause; those of the operating system carry its number. -/
def IoCause.message : IoCause → String
  | .system error => error.text ++ " (os error " ++ toString error.code ++ ")"
  | .invalidText  => "stream did not contain valid UTF-8"
  | .other text   => text

end KindLex
