import KindLex.CommandLine

/-!
# The executable

The system that a process runs on, for the command to run on.
-/

namespace KindLex.Main

/-- The number of a condition of the operating system; some actions report it negated. -/
def conditionNumber (code : UInt32) : Nat :=
  if code.toNat < Nat.pow 2 31 then code.toNat else Nat.pow 2 32 - code.toNat

/-- The cause that a failed action reports. -/
def causeOf (error : IO.Error) : IoCause :=
  match error with
  | .noFileOrDirectory _ code _ | .resourceVanished code _ | .permissionDenied _ code _
  | .inappropriateType _ code _ | .resourceExhausted _ code _ | .hardwareFault code _
  | .unsupportedOperation code _ | .otherError code _ =>
      match SystemError.ofCode? (conditionNumber code) with
      | some condition => .system condition
      | none           => .other (toString error)
  | _ => .other (toString error)

/-- An action, with the cause that it reports if it fails. -/
def attempt {α : Type} (action : IO α) : ExceptT IoCause IO α :=
  ExceptT.mk do
    try
      return .ok (← action)
    catch error =>
      return .error (causeOf error)

/-- The next line of standard input, with the line feed that ends it; empty where the input ends. -/
partial def readLine (stream : IO.FS.Stream) (line : ByteArray) : IO ByteArray := do
  let byte ← stream.read 1
  if byte.isEmpty then return line
  if byte.data == #[10] then return line ++ byte
  readLine stream (line ++ byte)

/-- Standard input up to the line that ends the reading. -/
partial def readTyped (stream : IO.FS.Stream) (typed : ByteArray) : IO ByteArray := do
  let line ← readLine stream ByteArray.empty
  if line.isEmpty || Prompt.endsReading line.data.toList then return typed ++ line
  readTyped stream (typed ++ line)

/-- A stream of the process; what ends in a line feed is not held back. -/
def writer (stream : IO.FS.Stream) : Writer IO IoCause where
  put text := attempt do
    stream.putStr text
    if text.endsWith "\n" then stream.flush
  flush := attempt stream.flush

/-- The system that the process runs on. -/
def system : IO (CommandLine.System IO) := do
  let input ← IO.getStdin
  return {
    readFile := fun path => attempt do return (← IO.FS.readBinFile path).data.toList
    input := do return .ofBytes (← readTyped input ByteArray.empty).data.toList
    out := writer (← IO.getStdout)
    err := writer (← IO.getStderr) }

end KindLex.Main

open KindLex in
/-- Runs the command. -/
def main (arguments : List String) : IO UInt32 := do
  let ending ← CommandLine.run (← Main.system) arguments
  if let some message := ending.panicMessage? then IO.eprintln message
  return ending.status.toUInt32
