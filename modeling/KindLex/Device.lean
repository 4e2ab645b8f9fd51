import KindLex.SystemError
import KindLex.Text.Pieces
import KindLex.Text.Utf8
import KindLex.Writer

/-!
# Devices

A device is where the bytes that a process writes arrive: a file, a terminal, a pipe.  It takes some
of the bytes that are sent to it, or refuses them, and which of the two may depend on everything
before.  Standard error sends every text to its device at once; standard output has a buffer before
the device, which holds text back until a line is complete.
-/

namespace KindLex

/-- What a device does with bytes that are sent to it. -/
inductive Answer where
  /-- It takes the first of them, and `more` others as far as there are. -/
  | takes (more : Nat)
  /-- It refuses all of them. -/
  | refuses (cause : IoCause)

/-- How a device behaves, after it was asked so often and has taken these bytes. -/
structure Behaviour where
  /-- What it does with bytes. -/
  answer : (asked : Nat) → (taken offered : List UInt8) → Answer
  /-- Why it refuses to pass on what it has taken, if it does. -/
  flush  : (asked : Nat) → (taken : List UInt8) → Option IoCause

namespace Behaviour

/-- The behaviour of a device that never refuses. -/
structure Willing (behaviour : Behaviour) : Prop where
  answer : ∀ asked taken offered, ∃ more, behaviour.answer asked taken offered = .takes more
  flush  : ∀ asked taken, behaviour.flush asked taken = none

/-- A device that takes all bytes. -/
def boundless : Behaviour where
  answer _ _ offered := .takes offered.length
  flush _ _ := none

/-- A device that has room for so many bytes and refuses the others. -/
def bounded (room : Nat) (cause : IoCause) : Behaviour where
  answer _ taken _ :=
    if taken.length < room then .takes (room - taken.length - 1) else .refuses cause
  flush _ _ := none

theorem willing_boundless : boundless.Willing :=
  ⟨fun _ _ offered => ⟨offered.length, rfl⟩, fun _ _ => rfl⟩

end Behaviour

/-- A device, with what has happened to it. -/
structure Device where
  behaviour : Behaviour
  /-- How often it was asked. -/
  asked     : Nat
  /-- The bytes that it has taken. -/
  taken     : List UInt8
  /-- Why it has refused something, each time that it has. -/
  refusals  : List IoCause

/-- What a device leaves of some bytes that it refuses. -/
structure Refusal where
  cause : IoCause
  /-- The bytes that it has not taken. -/
  rest  : List UInt8

namespace Device

/-- A device to which nothing has happened yet. -/
def fresh (behaviour : Behaviour) : Device :=
  ⟨behaviour, 0, [], []⟩

/-- The device after it has taken some bytes. -/
def take (device : Device) (bytes : List UInt8) : Device :=
  { device with asked := device.asked + 1, taken := device.taken ++ bytes }

/-- The device after it has refused something. -/
def refuse (device : Device) (cause : IoCause) : Device :=
  { device with asked := device.asked + 1, refusals := device.refusals ++ [cause] }

/-- Sends bytes, time after time what was not taken before, until the device has taken all of them
    or refuses some. -/
def send : List UInt8 → Device → Except Refusal Unit × Device
  | [],           device => (.ok (), device)
  | byte :: rest, device =>
      match device.behaviour.answer device.asked device.taken (byte :: rest) with
      | .takes more    => send (rest.drop more) (device.take (byte :: rest.take more))
      | .refuses cause => (.error ⟨cause, byte :: rest⟩, device.refuse cause)
termination_by bytes => bytes.length
decreasing_by
  simp only [List.length_drop, List.length_cons]
  omega

/-- Asks the device to pass on what it has taken. -/
def pass (device : Device) : Except IoCause Unit × Device :=
  match device.behaviour.flush device.asked device.taken with
  | none       => (.ok (), device.take [])
  | some cause => (.error cause, device.refuse cause)

/-- Devices as writers: every text is sent at once. -/
def writer : Writer (StateM Device) IoCause where
  put text := actOn fun device =>
    match device.send (Text.Utf8.bytes text) with
    | (result, after) => (result.mapError Refusal.cause, after)
  flush := actOn pass

end Device

/-- A device with a buffer before it, which holds back what is no complete line. -/
structure LineBuffer where
  /-- How many bytes the buffer has room for. -/
  room   : Nat
  /-- The bytes that it holds back. -/
  held   : List UInt8
  device : Device

namespace LineBuffer

/-- The buffer before a device to which nothing has happened yet. -/
def fresh (room : Nat) (behaviour : Behaviour) : LineBuffer :=
  ⟨room, [], .fresh behaviour⟩

/-- Sends bytes past the buffer; what is refused is lost. -/
def send (bytes : List UInt8) : ExceptT IoCause (StateM LineBuffer) Unit :=
  actOn fun buffer =>
    match buffer.device.send bytes with
    | (.ok (), device)         => (.ok (), { buffer with device })
    | (.error refusal, device) => (.error refusal.cause, { buffer with device })

/-- Sends what is held back; what is refused is held back again. -/
def passOn : ExceptT IoCause (StateM LineBuffer) Unit :=
  actOn fun buffer =>
    match buffer.device.send buffer.held with
    | (.ok (), device)         => (.ok (), { buffer with held := [], device })
    | (.error refusal, device) =>
        (.error refusal.cause, { buffer with held := refusal.rest, device })

/-- Sends what is held back if there is no room for so many bytes behind it. -/
def makeRoom (count : Nat) : ExceptT IoCause (StateM LineBuffer) Unit :=
  actOn fun buffer =>
    if buffer.room - buffer.held.length < count then runOn passOn buffer else (.ok (), buffer)

/-- Puts bytes into the buffer, or sends them past it if they would fill it. -/
def store (bytes : List UInt8) : ExceptT IoCause (StateM LineBuffer) Unit :=
  actOn fun buffer =>
    if buffer.room ≤ bytes.length then runOn (send bytes) buffer
    else (.ok (), { buffer with held := buffer.held ++ bytes })

/-- Holds bytes back, as far as there is room for them. -/
def hold (bytes : List UInt8) : ExceptT IoCause (StateM LineBuffer) Unit := do
  makeRoom bytes.length
  store bytes

/-- Sends complete lines, behind what is held back; where there are none, what is held back is sent
    if it ends in a line feed. -/
def sendLines (lines : List UInt8) : ExceptT IoCause (StateM LineBuffer) Unit :=
  actOn fun buffer =>
    if lines = [] then
      if buffer.held.getLast? = some 10 then runOn passOn buffer else (.ok (), buffer)
    else if buffer.held = [] then runOn (send lines) buffer
    else runOn (do hold lines; passOn) buffer

/-- Sends the complete lines of some bytes, and holds back the others. -/
def putBytes (bytes : List UInt8) : ExceptT IoCause (StateM LineBuffer) Unit := do
  let lines := Text.dropEndWhile (· != 10) bytes
  sendLines lines
  hold (bytes.drop lines.length)

/-- Buffers as writers. -/
def writer : Writer (StateM LineBuffer) IoCause where
  put text := putBytes (Text.Utf8.bytes text)
  flush := do
    passOn
    actOn fun buffer =>
      match buffer.device.pass with
      | (result, device) => (result, { buffer with device })

/-- The device when the process ends: what is held back is sent once more, and nothing is said if it
    is refused. -/
def close (buffer : LineBuffer) : Device :=
  (runOn passOn buffer).2.device

end LineBuffer

end KindLex
