import KindLex.Device
import KindLex.Proofs.Writer
import Mathlib.Data.List.DropRight

/-!
# What arrives at a device

A device is asked time after time, until it refuses something; what it has taken by then, and what
a buffer before it holds back, are the bytes that were sent, one behind the other.  So whatever a
device does, what has arrived is a front of what was to be written, and it is all of it unless the
device has refused something, in which case the writing has failed and nothing more is sent.

* **`Asked`**: what becomes of a device that is asked until it refuses something.
* **`Asked.full_of_bounded`**: a device with room for some bytes refuses bytes when it is full.
* **`Device.law_adds`**, **`LineBuffer.law_adds`**: what is written without a buffer, and with one.
* **`LineBuffer.flushed_of_adds`**, **`LineBuffer.taken_close_prefix`**: what a flush makes of it,
  and the end of the process.
* **`Delivery`**: what has arrived in the end of bytes that were meant for a device.
-/

namespace KindLex

open Text

namespace Device

/-- `Asked device refused after`: what becomes of a device that is asked time after time, up to the
    first time that it refuses something, if it does. -/
inductive Asked : Device → Option IoCause → Device → Prop where
  | done (device) : Asked device none device
  | takes {device first rest more refused after}
      (hanswer : device.behaviour.answer device.asked device.taken (first :: rest) = .takes more)
      (hlater : Asked (device.take (first :: rest.take more)) refused after) :
      Asked device refused after
  | refuses {device first rest cause}
      (hanswer : device.behaviour.answer device.asked device.taken (first :: rest) =
        .refuses cause) :
      Asked device (some cause) (device.refuse cause)
  | passes {device refused after}
      (hflush : device.behaviour.flush device.asked device.taken = none)
      (hlater : Asked (device.take []) refused after) : Asked device refused after
  | keeps {device cause} (hflush : device.behaviour.flush device.asked device.taken = some cause) :
      Asked device (some cause) (device.refuse cause)

/-- What becomes of a device to which some bytes are sent. -/
inductive Sent (device : Device) (bytes : List UInt8) : Except Refusal Unit × Device → Prop where
  | whole {after} (hasked : Asked device none after)
      (htaken : after.taken = device.taken ++ bytes) :
      Sent device bytes (.ok (), after)
  | part {cause front rest after} (hasked : Asked device (some cause) after)
      (hbytes : bytes = front ++ rest) (hrest : rest ≠ [])
      (htaken : after.taken = device.taken ++ front) :
      Sent device bytes (.error ⟨cause, rest⟩, after)

-- ── Asking a device ─────────────────────────────────────────────────────────────────

section Asking

variable {device middle after : Device} {refused : Option IoCause}

theorem Asked.trans (h : Asked device none middle) (hlater : Asked middle refused after) :
    Asked device refused after := by
  generalize hnone : (none : Option IoCause) = outcome at h
  induction h with
  | done => exact hlater
  | takes hanswer _ ih => exact .takes hanswer (ih hlater hnone)
  | refuses => exact nomatch hnone
  | passes hflush _ ih => exact .passes hflush (ih hlater hnone)
  | keeps => exact nomatch hnone

/-- A device stays what it is. -/
theorem Asked.behaviour_eq (h : Asked device refused after) :
    after.behaviour = device.behaviour := by
  induction h with
  | done | refuses | keeps => rfl
  | takes _ _ ih | passes _ _ ih => exact ih

/-- A device keeps what it has taken. -/
theorem Asked.taken_prefix (h : Asked device refused after) : device.taken <+: after.taken := by
  induction h with
  | done => exact List.prefix_rfl
  | refuses | keeps => exact List.prefix_rfl
  | takes _ _ ih | passes _ _ ih => exact (List.prefix_append _ _).trans ih

/-- A device is asked no more when it has refused something. -/
theorem Asked.refusals_eq (h : Asked device refused after) :
    after.refusals = device.refusals ++ refused.toList := by
  induction h with
  | done => exact (List.append_nil _).symm
  | refuses | keeps => rfl
  | takes _ _ ih | passes _ _ ih => exact ih

/-- A willing device refuses nothing. -/
theorem Asked.of_willing (h : Asked device refused after) (hwilling : device.behaviour.Willing) :
    refused = none := by
  induction h with
  | done => rfl
  | @refuses device first rest cause hanswer =>
      obtain ⟨more, htakes⟩ := hwilling.answer device.asked device.taken (first :: rest)
      exact nomatch hanswer.symm.trans htakes
  | keeps hflush => exact nomatch hflush.symm.trans (hwilling.flush _ _)
  | takes _ _ ih | passes _ _ ih => exact ih hwilling

/-- A device takes no more than it has room for. -/
theorem Asked.length_taken_le {room : Nat} {cause : IoCause} (h : Asked device refused after)
    (hbounded : device.behaviour = .bounded room cause) (hroom : device.taken.length ≤ room) :
    after.taken.length ≤ room := by
  induction h with
  | done => exact hroom
  | refuses | keeps => exact hroom
  | @takes device first rest more _ _ hanswer _ ih =>
      refine ih hbounded ?_
      rw [hbounded] at hanswer
      simp only [Behaviour.bounded] at hanswer
      split at hanswer
      · obtain rfl := Answer.takes.inj hanswer
        simp only [take, List.length_append, List.length_cons, List.length_take]
        omega
      · exact nomatch hanswer
  | @passes device _ _ _ _ ih =>
      refine ih hbounded ?_
      rwa [take, List.append_nil]

/-- **A device with room for some bytes refuses others only when it is full.** -/
theorem Asked.full_of_bounded {room : Nat} {cause why : IoCause}
    (h : Asked device (some why) after) (hbounded : device.behaviour = .bounded room cause) :
    room ≤ after.taken.length := by
  generalize hsome : some why = outcome at h
  induction h with
  | done => exact nomatch hsome
  | @refuses device first rest other hanswer =>
      rw [hbounded] at hanswer
      simp only [Behaviour.bounded] at hanswer
      split at hanswer
      · exact nomatch hanswer
      · rename_i hfull
        exact Nat.le_of_not_lt hfull
  | @keeps device other hflush =>
      rw [hbounded] at hflush
      exact nomatch hflush
  | takes _ _ ih | passes _ _ ih => exact ih hbounded hsome

end Asking

/-- Of bytes that are refused in part, some have not arrived. -/
theorem length_taken_lt {device after : Device} {bytes front rest : List UInt8}
    (hbytes : bytes = front ++ rest) (hrest : rest ≠ [])
    (htaken : after.taken = device.taken ++ front) :
    after.taken.length < (device.taken ++ bytes).length := by
  have hpos := List.length_pos_iff.mpr hrest
  rw [htaken, hbytes]
  simp only [List.length_append]
  omega

/-- Bytes behind others that are taken. -/
theorem Sent.append {device middle : Device} {front behind : List UInt8}
    {result : Except Refusal Unit × Device} (hfront : Sent device front (.ok (), middle))
    (hbehind : Sent middle behind result) : Sent device (front ++ behind) result := by
  cases hfront with
  | whole hasked htaken =>
      cases hbehind with
      | whole hasked' htaken' =>
          refine .whole (hasked.trans hasked') ?_
          rw [htaken', htaken, List.append_assoc]
      | @part cause taken rest after hasked' hbytes hrest htaken' =>
          have hfront : front ++ behind = front ++ taken ++ rest := by
            rw [hbytes, List.append_assoc]
          refine .part (hasked.trans hasked') hfront hrest ?_
          rw [htaken', htaken, List.append_assoc]

/-- Bytes behind others that are not taken are not sent. -/
theorem Sent.append_of_refused {device after : Device} {front rest : List UInt8}
    {cause : IoCause} (h : Sent device front (.error ⟨cause, rest⟩, after)) (behind : List UInt8) :
    Sent device (front ++ behind) (.error ⟨cause, rest ++ behind⟩, after) := by
  cases h with
  | part hasked hbytes hrest htaken =>
      refine .part hasked ?_ (List.append_ne_nil_of_left_ne_nil hrest behind) htaken
      rw [hbytes, List.append_assoc]

/-- **What becomes of a device to which bytes are sent.** -/
theorem sent_send (bytes : List UInt8) (device : Device) :
    Sent device bytes (device.send bytes) := by
  fun_induction send bytes device with
  | case1 device => exact .whole (.done device) (List.append_nil _).symm
  | case2 first rest device more hanswer ih =>
      have hbytes : first :: rest = (first :: rest.take more) ++ rest.drop more := by
        rw [List.cons_append, List.take_append_drop]
      generalize send (rest.drop more) (device.take (first :: rest.take more)) = result at ih ⊢
      cases ih with
      | whole hasked htaken =>
          refine .whole (.takes hanswer hasked) ?_
          rw [htaken, take, List.append_assoc, ← hbytes]
      | @part cause front left after hasked hleft hne htaken =>
          have hfront : first :: rest = (first :: rest.take more) ++ front ++ left := by
            rw [hbytes, hleft, List.append_assoc]
          refine .part (.takes hanswer hasked) hfront hne ?_
          rw [htaken, take, List.append_assoc]
  | case3 first rest device cause hanswer =>
      exact .part (.refuses hanswer) (List.nil_append _).symm (List.cons_ne_nil _ _)
        (List.append_nil _).symm

end Device

open Device

/-- A place that sends what is written to a device, though it may hold some of it back. -/
class Outlet (σ : Type) where
  /-- All bytes that were written. -/
  sent   : σ → List UInt8
  device : σ → Device

instance : Outlet Device :=
  ⟨Device.taken, id⟩

instance : Outlet LineBuffer :=
  ⟨fun buffer => buffer.device.taken ++ buffer.held, LineBuffer.device⟩

section Adding

variable {σ : Type} [Outlet σ]

open Outlet

/-- What becomes of a place where some bytes are written. -/
inductive Added (state : σ) (bytes : List UInt8) : Except IoCause Unit × σ → Prop where
  | whole {after} (hasked : Asked (device state) none (device after))
      (hsent : sent after = sent state ++ bytes) : Added state bytes (.ok (), after)
  /-- The device has refused something, and not all bytes have arrived. -/
  | part {cause front after} (hasked : Asked (device state) (some cause) (device after))
      (hfront : front <+: bytes) (hsent : sent after = sent state ++ front)
      (hshort : (device after).taken.length < (sent state ++ bytes).length) :
      Added state bytes (.error cause, after)

/-- `Adds writing text`: wherever it is done, the writing writes the bytes of the text. -/
def Adds (writing : ExceptT IoCause (StateM σ) Unit) (text : String) : Prop :=
  ∀ state, Added state (Utf8.bytes text) (runOn writing state)

-- ── Writing in turn ─────────────────────────────────────────────────────────────────

theorem added_nothing (state : σ) : Added state [] (.ok (), state) :=
  .whole (.done _) (List.append_nil _).symm

/-- **Bytes that are written in turn** are written one behind the other. -/
theorem Added.bind {first second : ExceptT IoCause (StateM σ) Unit} {state : σ}
    {front behind : List UInt8} (hfirst : Added state front (runOn first state))
    (hsecond : ∀ after, runOn first state = (.ok (), after) →
      Added after behind (runOn second after)) :
    Added state (front ++ behind) (runOn (first >>= fun _ => second) state) := by
  rw [runOn_bind]
  generalize runOn first state = result at hfirst hsecond ⊢
  cases hfirst with
  | @whole middle hasked hsent =>
      have hmiddle := hsecond middle rfl
      show Added state (front ++ behind) (runOn second middle)
      generalize runOn second middle = result at hmiddle ⊢
      cases hmiddle with
      | whole hasked' hsent' =>
          refine .whole (hasked.trans hasked') ?_
          rw [hsent', hsent, List.append_assoc]
      | part hasked' hfront hsent' hshort =>
          have hlonger := (List.prefix_append_right_inj front).mpr hfront
          refine .part (hasked.trans hasked') hlonger ?_ ?_
          · rw [hsent', hsent, List.append_assoc]
          · rwa [hsent, List.append_assoc] at hshort
  | part hasked hfront hsent hshort =>
      refine .part hasked (hfront.trans (List.prefix_append front behind)) hsent ?_
      rw [← List.append_assoc, List.length_append]
      exact Nat.lt_add_right _ hshort

/-- A writer whose texts are written has all texts written that are put in turn. -/
theorem law_of_put {out : Writer (StateM σ) IoCause} (h : ∀ text, Adds (out.put text) text) :
    out.Law Adds where
  nothing := added_nothing
  put := h
  bind := by
    intro first second front behind hfirst hsecond state
    rw [Utf8.bytes_append]
    exact (hfirst state).bind fun after _ => hsecond after

end Adding

-- ── Without a buffer ────────────────────────────────────────────────────────────────

namespace Device

/-- Every text is sent at once. -/
theorem adds_put (text : String) : Adds (writer.put text) text := by
  intro device
  have hsent := sent_send (Utf8.bytes text) device
  have hput : runOn (writer.put text) device =
      ((device.send (Utf8.bytes text)).1.mapError Refusal.cause,
        (device.send (Utf8.bytes text)).2) := rfl
  rw [hput]
  generalize device.send (Utf8.bytes text) = result at hsent ⊢
  cases hsent with
  | whole hasked htaken => exact .whole hasked htaken
  | @part cause front rest after hasked hbytes hrest htaken =>
      exact .part hasked ⟨rest, hbytes.symm⟩ htaken (length_taken_lt hbytes hrest htaken)

/-- **What is written without a buffer.** -/
theorem law_adds : writer.Law Adds :=
  law_of_put adds_put

end Device

-- ── With a buffer ───────────────────────────────────────────────────────────────────

namespace LineBuffer

variable {buffer after : LineBuffer}

/-- What is held back is sent, and nothing else. -/
theorem added_passOn (buffer : LineBuffer) : Added buffer [] (runOn passOn buffer) := by
  have hsent := sent_send buffer.held buffer.device
  rw [passOn, runOn_actOn]
  generalize buffer.device.send buffer.held = result at hsent ⊢
  cases hsent with
  | @whole device hasked htaken =>
      refine .whole hasked ?_
      show device.taken ++ [] = buffer.device.taken ++ buffer.held ++ []
      rw [htaken]
  | @part cause front rest device hasked hbytes hrest htaken =>
      refine .part hasked List.prefix_rfl ?_ ?_
      · show device.taken ++ rest = buffer.device.taken ++ buffer.held ++ []
        rw [htaken, hbytes, List.append_nil, List.append_assoc]
      · rw [List.append_nil]
        exact length_taken_lt hbytes hrest htaken

/-- Nothing is held back after that. -/
theorem held_passOn (h : runOn passOn buffer = (.ok (), after)) : after.held = [] := by
  rw [passOn, runOn_actOn] at h
  split at h
  · obtain rfl := (Prod.mk.inj h).2
    rfl
  · exact nomatch h

/-- Bytes may be sent past a buffer that holds nothing back. -/
theorem added_send (hheld : buffer.held = []) (bytes : List UInt8) :
    Added buffer bytes (runOn (send bytes) buffer) := by
  have hsent := sent_send bytes buffer.device
  have hbefore : Outlet.sent buffer = buffer.device.taken := by
    show buffer.device.taken ++ buffer.held = _
    rw [hheld, List.append_nil]
  rw [send, runOn_actOn]
  generalize buffer.device.send bytes = result at hsent ⊢
  cases hsent with
  | @whole device hasked htaken =>
      refine .whole hasked ?_
      show device.taken ++ buffer.held = _
      rw [hbefore, hheld, htaken, List.append_nil]
  | @part cause front rest device hasked hbytes hrest htaken =>
      refine .part hasked ⟨rest, hbytes.symm⟩ ?_ ?_
      · show device.taken ++ buffer.held = _
        rw [hbefore, hheld, htaken, List.append_nil]
      · rw [hbefore]
        exact length_taken_lt hbytes hrest htaken

/-- Room is made by sending what is held back. -/
theorem added_makeRoom (buffer : LineBuffer) (count : Nat) :
    Added buffer [] (runOn (makeRoom count) buffer) := by
  rw [makeRoom, runOn_actOn]
  split
  · exact added_passOn buffer
  · exact added_nothing buffer

/-- Then there is room, or nothing is held back. -/
theorem held_makeRoom {count : Nat} (h : runOn (makeRoom count) buffer = (.ok (), after)) :
    after.held = [] ∨ count ≤ after.room - after.held.length := by
  rw [makeRoom, runOn_actOn] at h
  split at h
  · exact Or.inl (held_passOn h)
  · rename_i hroom
    obtain rfl := (Prod.mk.inj h).2
    exact Or.inr (Nat.le_of_not_lt hroom)

/-- Bytes are stored where there is room for them, or nothing is held back. -/
theorem added_store {bytes : List UInt8}
    (hroom : buffer.held = [] ∨ bytes.length ≤ buffer.room - buffer.held.length) :
    Added buffer bytes (runOn (store bytes) buffer) := by
  rw [store, runOn_actOn]
  split
  · rename_i hfull
    by_cases hheld : buffer.held = []
    · exact added_send hheld bytes
    · -- a buffer that holds something back has less room than it would take to fill it
      have hpos := List.length_pos_iff.mpr hheld
      have hle := hroom.resolve_left hheld
      obtain rfl : bytes = [] := List.length_eq_zero_iff.mp (by omega)
      have hsend : runOn (send []) buffer = (.ok (), buffer) := by
        rw [send, runOn_actOn, Device.send]
      rw [hsend]
      exact added_nothing buffer
  · refine .whole (.done _) ?_
    show buffer.device.taken ++ (buffer.held ++ bytes) = _
    rw [← List.append_assoc]
    rfl

/-- Bytes are held back behind others. -/
theorem added_hold (buffer : LineBuffer) (bytes : List UInt8) :
    Added buffer bytes (runOn (hold bytes) buffer) :=
  (added_makeRoom buffer bytes.length).bind fun _ hafter => added_store (held_makeRoom hafter)

/-- Complete lines are sent behind what is held back. -/
theorem added_sendLines (buffer : LineBuffer) (lines : List UInt8) :
    Added buffer lines (runOn (sendLines lines) buffer) := by
  rw [sendLines, runOn_actOn]
  split
  · rename_i hlines
    rw [hlines]
    split
    · exact added_passOn buffer
    · exact added_nothing buffer
  · split
    · rename_i hheld
      exact added_send hheld lines
    · have hboth := (added_hold buffer lines).bind fun after _ => added_passOn after
      rwa [List.append_nil] at hboth

/-- Bytes are their complete lines, and what is behind them. -/
theorem added_putBytes (buffer : LineBuffer) (bytes : List UInt8) :
    Added buffer bytes (runOn (putBytes bytes) buffer) := by
  have hboth : dropEndWhile (· != 10) bytes ++
      bytes.drop (dropEndWhile (· != 10) bytes).length = bytes := by
    have hfront : dropEndWhile (· != 10) bytes <+: bytes := List.rdropWhile_prefix _ bytes
    exact List.prefix_iff_eq_append.mp hfront
  have hadded := (added_sendLines buffer (dropEndWhile (· != 10) bytes)).bind fun after _ =>
    added_hold after (bytes.drop (dropEndWhile (· != 10) bytes).length)
  rw [hboth] at hadded
  exact hadded

/-- **What is written with a buffer.** -/
theorem law_adds : writer.Law Adds :=
  law_of_put fun text buffer => added_putBytes buffer (Utf8.bytes text)

/-- **A line is sent at once** where nothing is held back. -/
theorem runOn_putLine {line : List UInt8} (hheld : buffer.held = [])
    (hline : line.getLast? = some 10) :
    runOn (putBytes line) buffer =
      ((buffer.device.send line).1.mapError Refusal.cause,
        { buffer with device := (buffer.device.send line).2 }) := by
  have hne : line ≠ [] := by
    rintro rfl
    exact nomatch hline
  have hlines : dropEndWhile (· != 10) line = line := by
    refine List.rdropWhile_eq_self_iff.mpr fun h => ?_
    rw [List.getLast?_eq_some_getLast h] at hline
    simp [Option.some.inj hline]
  have hrest : ∀ after, runOn (hold []) after = (.ok (), after) := by
    intro after
    rw [hold, runOn_bind, makeRoom, runOn_actOn, List.length_nil, if_neg (Nat.not_lt_zero _)]
    show runOn (store []) after = _
    rw [store, runOn_actOn]
    split
    · rw [send, runOn_actOn, Device.send]
    · rw [List.append_nil]
  rw [putBytes, hlines, List.drop_length, runOn_bind, sendLines, runOn_actOn, if_neg hne,
    if_pos hheld, send, runOn_actOn]
  rcases buffer.device.send line with ⟨refusal | sent, device⟩
  · rfl
  · exact hrest _

-- ── Flushing ────────────────────────────────────────────────────────────────────────

/-- What becomes of a buffer to which bytes are written, and which is flushed then. -/
inductive Flushed (buffer : LineBuffer) (bytes : List UInt8) :
    Except IoCause Unit × LineBuffer → Prop where
  | whole {after : LineBuffer} (hasked : Asked buffer.device none after.device)
      (hheld : after.held = [])
      (htaken : after.device.taken = Outlet.sent buffer ++ bytes) :
      Flushed buffer bytes (.ok (), after)
  /-- The device has refused something: not all bytes have arrived, unless it does not pass on what
      it has taken. -/
  | part {cause front} {after : LineBuffer}
      (hasked : Asked buffer.device (some cause) after.device)
      (hfront : front <+: bytes) (hsent : Outlet.sent after = Outlet.sent buffer ++ front)
      (hshort : after.device.taken.length < (Outlet.sent buffer ++ bytes).length ∨
        ∃ asked taken, buffer.device.behaviour.flush asked taken = some cause) :
      Flushed buffer bytes (.error cause, after)

/-- Where nothing is held back, nothing is to be flushed. -/
theorem Flushed.nothing (hheld : buffer.held = []) : Flushed buffer [] (.ok (), buffer) := by
  refine .whole (.done _) hheld ?_
  show _ = buffer.device.taken ++ buffer.held ++ []
  rw [hheld, List.append_nil, List.append_nil]

/-- **What is written and flushed** has arrived, or has failed. -/
theorem flushed_of_adds {writing : ExceptT IoCause (StateM LineBuffer) Unit} {text : String}
    (h : Adds writing text) (buffer : LineBuffer) :
    Flushed buffer (Utf8.bytes text) (runOn (writing >>= fun _ => writer.flush) buffer) := by
  have hadded := (h buffer).bind fun after _ => added_passOn after
  have hheld : ∀ after, runOn (writing >>= fun _ => passOn) buffer = (.ok (), after) →
      after.held = [] := by
    intro after hrun
    rw [runOn_bind] at hrun
    split at hrun
    · exact held_passOn hrun
    · exact nomatch hrun
  have hflush : (writing >>= fun _ => writer.flush) =
      (writing >>= fun _ => passOn) >>= fun _ => actOn fun buffer =>
        (buffer.device.pass.1, { buffer with device := buffer.device.pass.2 }) :=
    (bind_assoc ..).symm
  rw [List.append_nil] at hadded
  rw [hflush, runOn_bind]
  generalize runOn (writing >>= fun _ => passOn) buffer = result at hadded hheld ⊢
  cases hadded with
  | @whole middle hasked hsent =>
      have hmiddle := hheld middle rfl
      have htaken : middle.device.taken = Outlet.sent buffer ++ Utf8.bytes text := by
        rw [← hsent]
        show _ = middle.device.taken ++ middle.held
        rw [hmiddle, List.append_nil]
      dsimp only
      rw [runOn_actOn, Device.pass]
      cases hpass : middle.device.behaviour.flush middle.device.asked middle.device.taken with
      | none =>
          refine .whole (hasked.trans (.passes hpass (.done _))) hmiddle ?_
          rw [← htaken]
          exact List.append_nil _
      | some cause =>
          have hsame : middle.device.behaviour = buffer.device.behaviour := hasked.behaviour_eq
          exact .part (hasked.trans (.keeps hpass)) List.prefix_rfl hsent
            (Or.inr ⟨_, _, hsame ▸ hpass⟩)
  | part hasked hfront hsent hshort =>
      exact .part hasked hfront hsent (Or.inl hshort)

-- ── When the process ends ───────────────────────────────────────────────────────────

/-- The device is asked once more for what is held back. -/
theorem asked_close (buffer : LineBuffer) :
    ∃ refused, Asked buffer.device refused buffer.close := by
  have hadded := added_passOn buffer
  rw [close]
  generalize runOn passOn buffer = result at hadded ⊢
  cases hadded with
  | whole hasked => exact ⟨_, hasked⟩
  | part hasked => exact ⟨_, hasked⟩

/-- **What has arrived in the end** is a front of what was sent. -/
theorem taken_close_prefix (buffer : LineBuffer) : buffer.close.taken <+: Outlet.sent buffer := by
  have hadded := added_passOn buffer
  rw [close]
  generalize runOn passOn buffer = result at hadded ⊢
  cases hadded with
  | whole _ hsent =>
      rw [← List.append_nil (Outlet.sent buffer), ← hsent]
      exact List.prefix_append _ _
  | part _ hfront hsent =>
      rw [List.prefix_nil.mp hfront, List.append_nil] at hsent
      rw [← hsent]
      exact List.prefix_append _ _

/-- Nothing becomes of the device where nothing is held back. -/
theorem close_of_held (hheld : buffer.held = []) : buffer.close = buffer.device := by
  rw [close, passOn, runOn_actOn, hheld, Device.send]

end LineBuffer

/-- What has arrived at a device of some bytes that were meant for it. -/
structure Delivery (behaviour : Behaviour) (bytes : List UInt8) (device : Device) : Prop where
  /-- A front of the bytes has arrived. -/
  front : device.taken <+: bytes
  /-- All of them have, unless the device has refused something. -/
  whole : device.refusals = [] → device.taken = bytes
  /-- A willing device has refused nothing. -/
  willing : behaviour.Willing → device.refusals = []
  /-- A device with room for some bytes has taken that many, and refused something exactly if there
      are more. -/
  bounded : ∀ room cause, behaviour = .bounded room cause →
    device.taken = bytes.take room ∧ (device.refusals = [] ↔ bytes.length ≤ room)

section Delivering

variable {behaviour : Behaviour}

/-- Everything is delivered that a device takes without refusing anything. -/
theorem Delivery.of_taken {device : Device} (h : Asked (.fresh behaviour) none device) :
    Delivery behaviour device.taken device where
  front := List.prefix_rfl
  whole _ := rfl
  willing _ := h.refusals_eq
  bounded room cause hbounded := by
    have hle := h.length_taken_le hbounded (Nat.zero_le room)
    exact ⟨(List.take_of_length_le hle).symm, iff_of_true h.refusals_eq hle⟩

/-- **What is delivered when a device has refused something.** -/
theorem Delivery.of_refused {bytes : List UInt8} {cause : IoCause} {buffer : LineBuffer}
    (h : Asked (.fresh behaviour) (some cause) buffer.device) (hsent : Outlet.sent buffer <+: bytes)
    (hshort : buffer.device.taken.length < bytes.length ∨
      ∃ asked taken, behaviour.flush asked taken = some cause) :
    Delivery behaviour bytes buffer.close := by
  obtain ⟨refused, hclose⟩ := buffer.asked_close
  have hrefusals : buffer.close.refusals ≠ [] := by
    rw [hclose.refusals_eq, h.refusals_eq]
    exact List.append_ne_nil_of_left_ne_nil (List.cons_ne_nil cause []) _
  have hfront : buffer.close.taken <+: bytes := buffer.taken_close_prefix.trans hsent
  refine ⟨hfront, fun hnone => absurd hnone hrefusals, fun hwilling => ?_, ?_⟩
  · exact nomatch h.of_willing hwilling
  · intro room why hbounded
    have hroom := h.full_of_bounded hbounded
    have hlonger := hclose.taken_prefix.length_le
    have hlength : buffer.close.taken.length = room := by
      refine Nat.le_antisymm ?_ (hroom.trans hlonger)
      exact hclose.length_taken_le (h.behaviour_eq.trans hbounded)
        (h.length_taken_le hbounded (Nat.zero_le room))
    refine ⟨?_, iff_of_false hrefusals (Nat.not_le.mpr ?_)⟩
    · rw [← hlength]
      exact List.prefix_iff_eq_take.mp hfront
    · rcases hshort with hlt | ⟨asked, taken, hflush⟩
      · exact Nat.lt_of_le_of_lt hroom hlt
      · rw [hbounded] at hflush
        exact nomatch hflush

end Delivering

end KindLex
