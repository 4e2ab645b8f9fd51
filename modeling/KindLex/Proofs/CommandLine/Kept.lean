import KindLex.CommandLine
import KindLex.Proofs.Device

/-!
# What is left behind of an intent

In each of its modes the command means to print some lines, to write a table behind them, to say
something on standard error and to end with some status.  The devices decide how far it gets: the
first refusal ends what it was about to do, and nothing that follows in the program is done.  Which
refusal that was shows in what the command leaves behind.

* **`Kept`**: what the command leaves behind of what it means to, whatever the devices do.
* **`Ran`**: what it has done of that, before it reports a failure.
* **`Ran.kept`**: what is left behind, from what has been done.
-/

namespace KindLex.CommandLine

open Text Device

/-- What the command means to leave behind. -/
structure Intent where
  code  : Nat
  /-- The lines that it prints on standard output. -/
  lines : String
  /-- The table that it writes behind them. -/
  table : String
  /-- What it says on standard error. -/
  said  : String

/-- What the command leaves behind of what it means to, whatever the devices do. -/
structure Kept (around : Surroundings) (intent : Intent) (report : Report) : Prop where
  /-- The lines and the table arrive at standard output, as far as its device takes them. -/
  stdout : Delivery around.stdout (Utf8.bytes (intent.lines ++ intent.table)) report.stdout
  /-- When nothing is refused, standard error holds what the command means to say. -/
  done : report.stdout.refusals = [] → report.stderr.refusals = [] →
    report.ending = .exit intent.code ∧ report.stderr.taken = Utf8.bytes intent.said
  /-- When a line is refused, the process panics, and nothing else is done. -/
  unprintable : ∀ cause later, report.stdout.refusals = cause :: later →
    ¬ Utf8.bytes intent.lines <+: report.stdout.taken →
      report.ending = .panic .out cause ∧ report.stderr = .fresh around.stderr
  /-- When the table is refused, that is all that is said. -/
  unwritable : ∀ cause later, report.stdout.refusals = cause :: later →
    Utf8.bytes intent.lines <+: report.stdout.taken → report.stderr.refusals = [] →
      report.ending = .exit 74 ∧
        report.stderr.taken = Utf8.bytes ("could not write output: " ++ cause.message ++ "\n")
  /-- When standard error refuses something, that is a failure to write, or nothing can be said. -/
  unheard : report.stderr.refusals ≠ [] →
    report.ending = .exit 74 ∨ ∃ cause, report.ending = .panic .err cause
  /-- A willing standard error refuses nothing. -/
  heard : around.stderr.Willing → report.stderr.refusals = []

-- ── What has been done ──────────────────────────────────────────────────────────────

/-- The streams when nothing is held back and nothing has been said. -/
def Surroundings.printed (around : Surroundings) (device : Device) : Streams :=
  ⟨⟨around.room, [], device⟩, .fresh around.stderr⟩

variable {around : Surroundings} {intent : Intent}

/-- What the command has done of what it means to, before it reports a failure: either everything
    up to the first refusal, or all of it. -/
inductive Ran (around : Surroundings) (intent : Intent) : Except Stop Nat × Streams → Prop where
  | unprinted {cause rest device}
      (hlines : Sent (.fresh around.stdout) (Utf8.bytes intent.lines)
        (.error ⟨cause, rest⟩, device)) :
      Ran around intent (.error (.unprintable cause), around.printed device)
  | failed {failure device}
      (hlines : Sent (.fresh around.stdout) (Utf8.bytes intent.lines) (.ok (), device))
      (htable : intent.table = "") (hcode : intent.code = failure.exitCode)
      (hsaid : intent.said = failure.message ++ "\n") :
      Ran around intent (.error (.failure failure), around.printed device)
  | unwritten {cause device out}
      (hlines : Sent (.fresh around.stdout) (Utf8.bytes intent.lines) (.ok (), device))
      (htable : LineBuffer.Flushed ⟨around.room, [], device⟩ (Utf8.bytes intent.table)
        (.error cause, out)) :
      Ran around intent
        (.error (.failure (.unwritableOutput cause)), ⟨out, .fresh around.stderr⟩)
  | unsaid {cause device out err}
      (hlines : Sent (.fresh around.stdout) (Utf8.bytes intent.lines) (.ok (), device))
      (htable : LineBuffer.Flushed ⟨around.room, [], device⟩ (Utf8.bytes intent.table)
        (.ok (), out))
      (hsaid : Added (Device.fresh around.stderr) (Utf8.bytes intent.said) (.error cause, err)) :
      Ran around intent (.error (.failure (.unwritableOutput cause)), ⟨out, err⟩)
  | done {device out err}
      (hlines : Sent (.fresh around.stdout) (Utf8.bytes intent.lines) (.ok (), device))
      (htable : LineBuffer.Flushed ⟨around.room, [], device⟩ (Utf8.bytes intent.table)
        (.ok (), out))
      (hsaid : Added (Device.fresh around.stderr) (Utf8.bytes intent.said) (.ok (), err)) :
      Ran around intent (.ok intent.code, ⟨out, err⟩)

-- ── Standard output in the end ──────────────────────────────────────────────────────

section Stdout

variable {behaviour : Behaviour} {lines table : String} {device : Device} {room : Nat}
variable {out : LineBuffer} {cause : IoCause}

/-- Lines that are sent and a table that is flushed arrive as a whole. -/
theorem delivery_written
    (hlines : Sent (.fresh behaviour) (Utf8.bytes lines) (.ok (), device))
    (htable : LineBuffer.Flushed ⟨room, [], device⟩ (Utf8.bytes table) (.ok (), out)) :
    Delivery behaviour (Utf8.bytes (lines ++ table)) out.close ∧ out.close.refusals = [] := by
  rw [Utf8.bytes_append]
  cases hlines with
  | whole hasked hlines =>
      cases htable with
      | whole hasked' hheld htable =>
          have htaken : out.device.taken = Utf8.bytes lines ++ Utf8.bytes table := by
            rw [htable]
            show device.taken ++ [] ++ Utf8.bytes table = _
            rw [hlines, List.append_nil]
            rfl
          have hall := hasked.trans hasked'
          rw [LineBuffer.close_of_held hheld, ← htaken]
          exact ⟨.of_taken hall, hall.refusals_eq⟩

/-- Of a table that is not taken, a front may arrive behind the lines. -/
theorem delivery_unwritten
    (hlines : Sent (.fresh behaviour) (Utf8.bytes lines) (.ok (), device))
    (htable : LineBuffer.Flushed ⟨room, [], device⟩ (Utf8.bytes table) (.error cause, out)) :
    Delivery behaviour (Utf8.bytes (lines ++ table)) out.close ∧
      Utf8.bytes lines <+: out.close.taken ∧ ∃ later, out.close.refusals = cause :: later := by
  rw [Utf8.bytes_append]
  obtain ⟨refused, hclose⟩ := out.asked_close
  cases hlines with
  | whole hasked hlines =>
      have hdevice : device.taken = Utf8.bytes lines := hlines
      have hsent : Outlet.sent (LineBuffer.mk room [] device) = device.taken := List.append_nil _
      cases htable with
      | part hasked' hfront htable hshort =>
          rw [hsent, hdevice] at htable hshort
          rw [hasked.behaviour_eq] at hshort
          have hall := hasked.trans hasked'
          -- what arrives when the process ends comes behind what arrived before
          refine ⟨.of_refused hall ?_ hshort, ?_, refused.toList, ?_⟩
          · rw [htable]
            exact (List.prefix_append_right_inj _).mpr hfront
          · rw [← hdevice]
            exact hasked'.taken_prefix.trans hclose.taken_prefix
          · rw [hclose.refusals_eq, hall.refusals_eq]
            rfl

/-- Of lines that are not taken, not all arrive, and nothing that follows. -/
theorem delivery_unprinted (room : Nat) (table : String) {rest : List UInt8}
    (hlines : Sent (.fresh behaviour) (Utf8.bytes lines) (.error ⟨cause, rest⟩, device)) :
    let out := LineBuffer.mk room [] device
    Delivery behaviour (Utf8.bytes (lines ++ table)) out.close ∧
      ¬ Utf8.bytes lines <+: out.close.taken ∧ out.close.refusals = [cause] := by
  rw [Utf8.bytes_append]
  have hclose : (LineBuffer.mk room [] device).close = device := LineBuffer.close_of_held rfl
  cases hlines with
  | @part _ front _ _ hasked hbytes hrest htaken =>
      have hlt : device.taken.length < (Utf8.bytes lines).length :=
        length_taken_lt hbytes hrest htaken
      have hfront : device.taken <+: Utf8.bytes lines := ⟨rest, by rw [htaken, hbytes]; rfl⟩
      refine ⟨.of_refused hasked ?_ (Or.inl ?_), ?_, ?_⟩
      · show device.taken ++ [] <+: _
        rw [List.append_nil]
        exact hfront.trans (List.prefix_append _ _)
      · rw [List.length_append]
        exact Nat.lt_add_right _ hlt
      · rw [hclose]
        exact fun h => Nat.not_le.mpr hlt h.length_le
      · rw [hclose]
        exact hasked.refusals_eq

end Stdout

-- ── What is reported in the end ─────────────────────────────────────────────────────

/-- What becomes of the streams when a failure is reported. -/
inductive Reported (failure : Failure) (streams : Streams) : Ending × Streams → Prop where
  | said {err} (h : Added streams.err (Utf8.bytes (failure.message ++ "\n")) (.ok (), err)) :
      Reported failure streams (.exit failure.exitCode, { streams with err })
  | unsaid {cause err}
      (h : Added streams.err (Utf8.bytes (failure.message ++ "\n")) (.error cause, err)) :
      Reported failure streams (.panic .err cause, { streams with err })

theorem reported_finish (around : Surroundings) (failure : Failure) (streams : Streams) :
    Reported failure streams
      ((finish around.system (.error (.failure failure))).run streams) := by
  have hadded := Device.adds_put (failure.message ++ "\n") streams.err
  have hput : (around.system.err.put (failure.message ++ "\n")).run.run streams =
      ((runOn (Device.writer.put (failure.message ++ "\n")) streams.err).1,
        { streams with
          err := (runOn (Device.writer.put (failure.message ++ "\n")) streams.err).2 }) := rfl
  rw [finish, StateT.run_bind, hput]
  generalize runOn (Device.writer.put (failure.message ++ "\n")) streams.err = result at hadded ⊢
  obtain ⟨cause | said, err⟩ := result
  · exact .unsaid hadded
  · exact .said hadded

/-- What the command leaves behind is what is reported of what it has done. -/
theorem report_eq (arguments : List String) (around : Surroundings) :
    report arguments around =
      let ran := runOn (runMode around.system (.ofArguments arguments)) around.streams
      let reported := (finish around.system ran.1).run ran.2
      ⟨reported.1, reported.2.out.close, reported.2.err⟩ :=
  rfl

section Stderr

variable {behaviour : Behaviour} {bytes : List UInt8} {err : Device}

theorem taken_of_said (h : Added (Device.fresh behaviour) bytes (.ok (), err)) :
    err.taken = bytes ∧ err.refusals = [] := by
  cases h with
  | whole hasked hsent => exact ⟨hsent, hasked.refusals_eq⟩

theorem refused_of_unsaid {cause : IoCause}
    (h : Added (Device.fresh behaviour) bytes (.error cause, err)) :
    err.refusals ≠ [] ∧ ¬ behaviour.Willing := by
  cases h with
  | part hasked =>
      have hrefused : err.refusals = [cause] := hasked.refusals_eq
      refine ⟨?_, fun hwilling => nomatch hasked.of_willing hwilling⟩
      rw [hrefused]
      exact List.cons_ne_nil _ _

end Stderr

/-- When nothing is refused. -/
theorem kept_of_taken {report : Report}
    (hstdout : Delivery around.stdout (Utf8.bytes (intent.lines ++ intent.table)) report.stdout)
    (hout : report.stdout.refusals = []) (herr : report.stderr.refusals = [])
    (hending : report.ending = .exit intent.code)
    (hsaid : report.stderr.taken = Utf8.bytes intent.said) : Kept around intent report where
  stdout := hstdout
  done _ _ := ⟨hending, hsaid⟩
  unprintable _ _ hrefused := nomatch hout.symm.trans hrefused
  unwritable _ _ hrefused := nomatch hout.symm.trans hrefused
  unheard hrefused := absurd herr hrefused
  heard _ := herr

/-- When standard error refuses something. -/
theorem kept_of_unheard {report : Report}
    (hstdout : Delivery around.stdout (Utf8.bytes (intent.lines ++ intent.table)) report.stdout)
    (hlines : report.stdout.refusals ≠ [] → Utf8.bytes intent.lines <+: report.stdout.taken)
    (herr : report.stderr.refusals ≠ []) (hunwilling : ¬ around.stderr.Willing)
    (hending : report.ending = .exit 74 ∨ ∃ cause, report.ending = .panic .err cause) :
    Kept around intent report where
  stdout := hstdout
  done _ hnone := absurd hnone herr
  unprintable _ _ hrefused hfront := by
    refine absurd (hlines ?_) hfront
    rw [hrefused]
    exact List.cons_ne_nil _ _
  unwritable _ _ _ _ hnone := absurd hnone herr
  unheard _ := hending
  heard hwilling := absurd hwilling hunwilling

/-- A report leaves standard output alone. -/
theorem Reported.out_eq {failure : Failure} {streams : Streams} {reported : Ending × Streams}
    (h : Reported failure streams reported) : reported.2.out = streams.out := by
  cases h <;> rfl

/-- A device that has refused something has still done so when something is reported. -/
theorem Reported.refusals_ne_nil {failure : Failure} {streams : Streams}
    {reported : Ending × Streams} (h : Reported failure streams reported)
    (hrefused : streams.err.refusals ≠ []) : reported.2.err.refusals ≠ [] := by
  have hkept : ∀ {refused after}, Asked streams.err refused after → after.refusals ≠ [] := by
    intro refused after hasked
    rw [hasked.refusals_eq]
    exact List.append_ne_nil_of_left_ne_nil hrefused _
  cases h with
  | said h =>
      cases h with
      | whole hasked => exact hkept hasked
  | unsaid h =>
      cases h with
      | part hasked => exact hkept hasked

section Keeping

variable {device : Device} {out : LineBuffer} {cause : IoCause}

/-- What is left behind when a line is refused. -/
theorem kept_unprinted {rest : List UInt8}
    (hlines : Sent (.fresh around.stdout) (Utf8.bytes intent.lines)
      (.error ⟨cause, rest⟩, device)) :
    Kept around intent ⟨.panic .out cause, (around.printed device).out.close,
      (around.printed device).err⟩ := by
  obtain ⟨hstdout, hfront, hrefused⟩ :=
    delivery_unprinted around.room intent.table hlines
  exact {
    stdout := hstdout
    done := fun hnone => nomatch hrefused.symm.trans hnone
    unprintable := by
      rintro why later hwhy -
      obtain rfl := (List.cons.inj (hrefused.symm.trans hwhy)).1
      exact ⟨rfl, rfl⟩
    unwritable := fun _ _ _ hlines => absurd hlines hfront
    unheard := fun hsome => absurd rfl hsome
    heard := fun _ => rfl }

/-- What is left behind when there is no table, but a failure to report. -/
theorem kept_failed {failure : Failure} {reported : Ending × Streams}
    (hlines : Sent (.fresh around.stdout) (Utf8.bytes intent.lines) (.ok (), device))
    (htable : intent.table = "") (hcode : intent.code = failure.exitCode)
    (hsaid : intent.said = failure.message ++ "\n")
    (h : Reported failure (around.printed device) reported) :
    Kept around intent ⟨reported.1, reported.2.out.close, reported.2.err⟩ := by
  have hflushed : LineBuffer.Flushed ⟨around.room, [], device⟩ (Utf8.bytes intent.table)
      (.ok (), ⟨around.room, [], device⟩) := by
    rw [htable]
    exact .nothing rfl
  obtain ⟨hstdout, hout⟩ := delivery_written hlines hflushed
  cases h with
  | said h =>
      obtain ⟨htaken, herr⟩ := taken_of_said h
      exact kept_of_taken hstdout hout herr (congrArg _ hcode.symm) (hsaid ▸ htaken)
  | @unsaid why err h =>
      obtain ⟨herr, hunwilling⟩ := refused_of_unsaid h
      exact kept_of_unheard hstdout (absurd hout) herr hunwilling
        (Or.inr ⟨why, rfl⟩)

/-- What is left behind when the table is refused. -/
theorem kept_unwritten {reported : Ending × Streams}
    (hlines : Sent (.fresh around.stdout) (Utf8.bytes intent.lines) (.ok (), device))
    (htable : LineBuffer.Flushed ⟨around.room, [], device⟩ (Utf8.bytes intent.table)
      (.error cause, out))
    (h : Reported (.unwritableOutput cause) ⟨out, .fresh around.stderr⟩ reported) :
    Kept around intent ⟨reported.1, reported.2.out.close, reported.2.err⟩ := by
  obtain ⟨hstdout, hfront, later, hout⟩ := delivery_unwritten hlines htable
  cases h with
  | said h =>
      obtain ⟨htaken, herr⟩ := taken_of_said h
      exact {
        stdout := hstdout
        done := fun hnone => nomatch hout.symm.trans hnone
        unprintable := fun _ _ _ hnot => absurd hfront hnot
        unwritable := by
          intro why more hwhy _ _
          obtain rfl := (List.cons.inj (hout.symm.trans hwhy)).1
          exact ⟨rfl, htaken⟩
        unheard := fun hsome => absurd herr hsome
        heard := fun _ => herr }
  | @unsaid why err h =>
      obtain ⟨herr, hunwilling⟩ := refused_of_unsaid h
      exact kept_of_unheard hstdout (fun _ => hfront) herr hunwilling
        (Or.inr ⟨why, rfl⟩)

/-- What is left behind when the diagnostics are refused. -/
theorem kept_unsaid {err : Device} {reported : Ending × Streams}
    (hlines : Sent (.fresh around.stdout) (Utf8.bytes intent.lines) (.ok (), device))
    (htable : LineBuffer.Flushed ⟨around.room, [], device⟩ (Utf8.bytes intent.table) (.ok (), out))
    (hsaid : Added (Device.fresh around.stderr) (Utf8.bytes intent.said) (.error cause, err))
    (h : Reported (.unwritableOutput cause) ⟨out, err⟩ reported) :
    Kept around intent ⟨reported.1, reported.2.out.close, reported.2.err⟩ := by
  obtain ⟨hstdout, hout⟩ := delivery_written hlines htable
  obtain ⟨hrefused, hunwilling⟩ := refused_of_unsaid hsaid
  have herr := h.refusals_ne_nil hrefused
  cases h with
  | said => exact kept_of_unheard hstdout (absurd hout) herr hunwilling (Or.inl rfl)
  | @unsaid why => exact kept_of_unheard hstdout (absurd hout) herr hunwilling (Or.inr ⟨why, rfl⟩)

end Keeping

/-- **What the command leaves behind**, from what it has done. -/
theorem Ran.kept {arguments : List String}
    (h : Ran around intent
      (runOn (runMode around.system (.ofArguments arguments)) around.streams)) :
    Kept around intent (report arguments around) := by
  rw [report_eq]
  generalize runOn (runMode around.system (.ofArguments arguments)) around.streams = ran at h ⊢
  cases h with
  | unprinted hlines => exact kept_unprinted hlines
  | failed hlines htable hcode hsaid =>
      exact kept_failed hlines htable hcode hsaid (reported_finish around _ _)
  | unwritten hlines htable => exact kept_unwritten hlines htable (reported_finish around _ _)
  | unsaid hlines htable hsaid => exact kept_unsaid hlines htable hsaid (reported_finish around _ _)
  | done hlines htable hsaid =>
      obtain ⟨hstdout, hout⟩ := delivery_written hlines htable
      obtain ⟨htaken, herr⟩ := taken_of_said hsaid
      exact kept_of_taken hstdout hout herr rfl htaken

end KindLex.CommandLine
