import KindLex.Proofs.Classification
import KindLex.Proofs.CommandLine.Kept
import KindLex.Proofs.Prompt

/-!
# What the command leaves behind

The status of the command goes by the kinds of the tokens, and standard error by their values; this
file shows that the two agree, and what the command leaves behind in each of its modes, whatever
becomes of the devices that it writes to.

* **`shown_lines`**: lines that are printed, each at once.
* **`ran_analyze`**: the table of a program, and then its diagnostics.
* **`diagnostics_ne_empty_iff`**: something is said exactly if some token is an error.
* **`run_outcome`**: the command with any arguments in any surroundings.
-/

namespace KindLex.CommandLine

open Prompt Text Device

/-- The diagnostics of the tokens of kind error, in their order. -/
def diagnostics (source name : String) : String :=
  String.join (Diagnostic.allLines ((tokenize source).filter Token.isError) source name)

/-- What the command leaves behind when it has read a source from a file. -/
structure FileOutcome (around : Surroundings) (source path : String) (report : Report) : Prop where
  /-- No line is printed, so that whatever is refused on standard output is a failure to write. -/
  kept : Kept around
    ⟨if ∃ t ∈ tokenize source, t.kind = .error then 65 else 0, "", Table.text (tokenize source),
      diagnostics source path⟩ report
  /-- No other token would have a diagnostic. -/
  silent : ∀ t ∈ tokenize source, t.kind ≠ .error → Diagnostic.lines t source path = []
  /-- When nothing is refused, the status is 65 exactly if there is something on standard error. -/
  said : report.stdout.refusals = [] → report.stderr.refusals = [] →
    (report.ending = .exit 65 ↔ report.stderr.taken ≠ [])

/-- What the command leaves behind when it has nothing to write but a failure. -/
structure Declined (around : Surroundings) (code : Nat) (said : String) (report : Report) :
    Prop where
  kept : Kept around ⟨code, "", "", said⟩ report
  /-- Standard output is not asked for anything. -/
  untouched : report.stdout = .fresh around.stdout

/-- What the command means to leave behind at a prompt, for lines of a program and the rest of the
    lines behind them. -/
inductive Prompted (texts : List String) (rest : List (List UInt8)) : Intent → Prop where
  /-- The line that is read last is no text. -/
  | unreadable {line others} (hrest : rest = line :: others) (hline : lineText? line = none) :
      Prompted texts rest
        ⟨66, banner, "", "could not read standard input: stream did not contain valid UTF-8\n"⟩
  /-- There is no program. -/
  | nothing (hrest : ∀ line ∈ rest.head?, lineText? line ≠ none) (htexts : texts = []) :
      Prompted texts rest ⟨0, banner ++ notice, "", ""⟩
  /-- There is one. -/
  | program {source} (hrest : ∀ line ∈ rest.head?, lineText? line ≠ none) (htexts : texts ≠ [])
      (hsource : source = String.join (texts.map (· ++ "\n"))) :
      Prompted texts rest
        ⟨0, banner ++ String.join heading, Table.text (tokenize source),
          diagnostics source "shell"⟩

/-- What the command leaves behind, by what it is asked for and what it finds. -/
structure Outcome (arguments : List String) (around : Surroundings) (report : Report) : Prop where
  file : ∀ path bytes, arguments = [path] → around.readFile path = .ok bytes →
    FileOutcome around (String.ofList (Utf8.decodeLossy bytes)) path report
  unreadable : ∀ path cause, arguments = [path] → around.readFile path = .error cause →
    Declined around 66 ("could not read " ++ quoted path ++ ": " ++ cause.message ++ "\n") report
  misuse : 2 ≤ arguments.length → Declined around 64 "Usage: kindpp [script]\n" report
  prompt : arguments = [] → ∃ texts rest intent, Typed around.input.bytes texts rest ∧
    Prompted texts rest intent ∧ Kept around intent report

variable {around : Surroundings} {intent : Intent}

-- ── Printing lines ──────────────────────────────────────────────────────────────────

/-- What becomes of the streams when bytes are printed where nothing is held back. -/
inductive Shown (around : Surroundings) (device : Device) (bytes : List UInt8) :
    Except Stop Unit × Streams → Prop where
  | whole {after} (hsent : Sent device bytes (.ok (), after)) :
      Shown around device bytes (.ok (), around.printed after)
  | part {cause rest after} (hsent : Sent device bytes (.error ⟨cause, rest⟩, after)) :
      Shown around device bytes (.error (.unprintable cause), around.printed after)

/-- A line is sent at once. -/
theorem shown_line (around : Surroundings) {line : String}
    (hline : (Utf8.bytes line).getLast? = some 10) (device : Device) :
    Shown around device (Utf8.bytes line)
      (runOn (printLine around.system line) (around.printed device)) := by
  have hsent := sent_send (Utf8.bytes line) device
  have hput : runOn (printLine around.system line) (around.printed device) =
      ((runOn (LineBuffer.putBytes (Utf8.bytes line)) ⟨around.room, [], device⟩).1.mapError
          .unprintable,
        ⟨(runOn (LineBuffer.putBytes (Utf8.bytes line)) ⟨around.room, [], device⟩).2,
          .fresh around.stderr⟩) := rfl
  rw [hput, LineBuffer.runOn_putLine rfl hline]
  dsimp only
  generalize device.send (Utf8.bytes line) = result at hsent ⊢
  obtain ⟨⟨cause, rest⟩ | sent, after⟩ := result
  · exact .part hsent
  · exact .whole hsent

/-- **Lines that are printed in turn.** -/
theorem shown_lines (around : Surroundings) {lines : List String}
    (hlines : ∀ line ∈ lines, (Utf8.bytes line).getLast? = some 10) (device : Device) :
    Shown around device (Utf8.bytes (String.join lines))
      (runOn (lines.forM (printLine around.system)) (around.printed device)) := by
  induction lines generalizing device with
  | nil => exact .whole (.whole (.done device) (List.append_nil _).symm)
  | cons line lines ih =>
      have hfirst := shown_line around (hlines line List.mem_cons_self) device
      have hothers := ih fun other hother => hlines other (List.mem_cons_of_mem _ hother)
      have hturn : (line :: lines).forM (printLine around.system) =
          (printLine around.system line >>= fun _ => lines.forM (printLine around.system)) := rfl
      rw [hturn, runOn_bind, String.join_cons, Utf8.bytes_append]
      generalize runOn (printLine around.system line) (around.printed device) = result at hfirst ⊢
      -- a line leaves nothing held back, so that the next one is sent at once as well
      cases hfirst with
      | part hsent => exact .part (hsent.append_of_refused _)
      | @whole middle hsent =>
          have hmiddle := hothers middle
          dsimp only
          generalize runOn (lines.forM (printLine around.system)) (around.printed middle) = result
            at hmiddle ⊢
          cases hmiddle with
          | whole hsent' => exact .whole (hsent.append hsent')
          | part hsent' => exact .part (hsent.append hsent')

-- ── The table and the diagnostics ───────────────────────────────────────────────────

/-- **The table of a program, and then its diagnostics**, behind lines that were printed. -/
theorem ran_analyze {lines : String} {device : Device} (source name : String) (code : Bool → Nat)
    (hlines : Sent (.fresh around.stdout) (Utf8.bytes lines) (.ok (), device)) :
    Ran around
      ⟨code (!((tokenize source).filter Token.isError).isEmpty), lines,
        Table.text (tokenize source), diagnostics source name⟩
      (runOn ((analyze around.system source name).adapt
          (fun cause => Stop.failure (.unwritableOutput cause)) >>= fun hasErrors =>
            pure (code hasErrors))
        (around.printed device)) := by
  obtain ⟨writing, hwriting, hadds⟩ :=
    (LineBuffer.law_adds.part Streams.outPart).table (tokenize source)
  obtain ⟨saying, hsaying, hadds'⟩ := (Device.law_adds.part Streams.errPart).diagnostics source name
    ((tokenize source).filter Token.isError)
  -- what is written to a stream is an action on that stream only, the flush included
  have hanalyze : analyze around.system source name =
      (Streams.outPart.on (writing >>= fun _ => LineBuffer.writer.flush) >>= fun _ =>
        Streams.errPart.on saying >>= fun _ =>
          pure (!((tokenize source).filter Token.isError).isEmpty)) := by
    rw [← Part.on_bind, bind_assoc, ← hwriting, ← hsaying]
    rfl
  have hflushed := LineBuffer.flushed_of_adds hadds ⟨around.room, [], device⟩
  have hadded := hadds' (Device.fresh around.stderr)
  rw [runOn_bind, runOn_adapt, hanalyze, runOn_bind, Part.runOn_on]
  have hout : Streams.outPart.get (around.printed device) = ⟨around.room, [], device⟩ := rfl
  rw [hout]
  generalize runOn (writing >>= fun _ => LineBuffer.writer.flush) ⟨around.room, [], device⟩ =
    written at hflushed ⊢
  obtain ⟨cause | flushed, out⟩ := written
  · exact .unwritten hlines hflushed
  · dsimp only
    rw [runOn_bind, Part.runOn_on]
    have herr : Streams.errPart.get (Streams.outPart.set (around.printed device) out) =
      .fresh around.stderr := rfl
    rw [herr]
    generalize runOn saying (Device.fresh around.stderr) = said at hadded ⊢
    obtain ⟨cause | said, err⟩ := said
    · exact .unsaid hlines hflushed hadded
    · exact .done hlines hflushed hadded

-- ── Diagnostics ─────────────────────────────────────────────────────────────────────

/-- A token has a diagnostic exactly if it has an error. -/
theorem lines_eq_nil_iff {t : Token} (source name : String) :
    Diagnostic.lines t source name = [] ↔ t.error? = none := by
  rw [Diagnostic.lines]
  cases t.error? <;> simp [Diagnostic.block]

/-- **Nothing is said exactly if no token has an error.** -/
theorem join_allLines_eq_empty_iff {tokens : List Token} {source name : String} :
    String.join (Diagnostic.allLines tokens source name) = "" ↔ ∀ t ∈ tokens, t.error? = none := by
  -- every line of a diagnostic ends in a line feed
  have hne : ∀ text ∈ Diagnostic.allLines tokens source name, text.toList ≠ [] := by
    intro text htext
    obtain ⟨t, -, hline⟩ := List.mem_flatMap.mp htext
    rw [Diagnostic.lines] at hline
    split at hline
    · obtain ⟨line, -, rfl⟩ := List.mem_map.mp hline
      rw [String.toList_append]
      exact List.append_ne_nil_of_right_ne_nil _ (by decide)
    · contradiction
  rw [← String.toList_eq_nil_iff, String.toList_join, List.flatMap_eq_nil_iff]
  constructor
  · intro hempty t ht
    refine (lines_eq_nil_iff source name).mp (List.eq_nil_iff_forall_not_mem.mpr ?_)
    intro text htext
    have hmem : text ∈ Diagnostic.allLines tokens source name :=
      List.mem_flatMap.mpr ⟨t, ht, htext⟩
    exact hne text hmem (hempty text hmem)
  · intro hnone text htext
    obtain ⟨t, ht, hline⟩ := List.mem_flatMap.mp htext
    rw [(lines_eq_nil_iff source name).mpr (hnone t ht)] at hline
    contradiction

/-- The diagnostics of a source are not empty exactly if some token is an error. -/
theorem diagnostics_ne_empty_iff (source name : String) :
    diagnostics source name ≠ "" ↔ ∃ t ∈ tokenize source, t.kind = .error := by
  rw [diagnostics, ne_eq, join_allLines_eq_empty_iff]
  constructor
  · intro hsome
    by_contra hnone
    refine hsome fun t ht => ?_
    obtain ⟨hmem, herror⟩ := List.mem_filter.mp ht
    exact absurd ⟨t, hmem, isError_iff.mp herror⟩ hnone
  · rintro ⟨t, hmem, hkind⟩ hnone
    have ht := List.mem_filter.mpr ⟨hmem, isError_iff.mpr hkind⟩
    exact (error?_eq_none_iff hmem).mp (hnone t ht) hkind

-- ── The modes ───────────────────────────────────────────────────────────────────────

/-- The status of a program goes by the kinds of its tokens. -/
theorem code_eq (source : String) :
    (if ∃ t ∈ tokenize source, t.kind = .error then 65 else 0) =
      if !((tokenize source).filter Token.isError).isEmpty then lexicalErrors else 0 := by
  have hclean : (!((tokenize source).filter Token.isError).isEmpty) = true ↔
      ∃ t ∈ tokenize source, t.kind = .error := by
    rw [Bool.not_eq_true', ← Bool.not_eq_true, List.isEmpty_iff, List.filter_eq_nil_iff]
    simp [isError_iff]
  exact if_congr hclean.symm rfl rfl

/-- Nothing is sent before the command prints something. -/
theorem sent_fresh (behaviour : Behaviour) :
    Sent (.fresh behaviour) [] (.ok (), .fresh behaviour) :=
  .whole (.done _) rfl

theorem ran_runFile {path : String} {bytes : List UInt8} (h : around.readFile path = .ok bytes) :
    let source := String.ofList (Utf8.decodeLossy bytes)
    Ran around
      ⟨if ∃ t ∈ tokenize source, t.kind = .error then 65 else 0, "", Table.text (tokenize source),
        diagnostics source path⟩
      (runOn (runFile around.system path) around.streams) := by
  have hread : runOn (around.system.readFile path) around.streams =
      (.ok bytes, around.streams) := by
    show (around.readFile path, around.streams) = _
    rw [h]
  dsimp only
  rw [runFile, runOn_bind, runOn_adapt, hread, code_eq]
  exact ran_analyze _ path (fun hasErrors => if hasErrors then lexicalErrors else 0)
    (sent_fresh around.stdout)

theorem runFile_of_error {path : String} {cause : IoCause}
    (h : around.readFile path = .error cause) :
    runOn (runFile around.system path) around.streams =
      (.error (.failure (.unreadableFile path cause)), around.streams) := by
  have hread : runOn (around.system.readFile path) around.streams =
      (.error cause, around.streams) := by
    show (around.readFile path, around.streams) = _
    rw [h]
  rw [runFile, runOn_bind, runOn_adapt, hread]
  rfl

/-- **What is left behind of a failure** before anything is written. -/
theorem declined_of_failed {arguments : List String} {failure : Failure}
    (h : runOn (runMode around.system (.ofArguments arguments)) around.streams =
      (.error (.failure failure), around.streams)) :
    Declined around failure.exitCode (failure.message ++ "\n") (report arguments around) where
  kept := by
    refine Ran.kept ?_
    rw [h]
    exact .failed (sent_fresh around.stdout) rfl rfl rfl
  untouched := by
    have hout := (reported_finish around failure around.streams).out_eq
    rw [report_eq, h]
    dsimp only
    rw [hout]
    exact LineBuffer.close_of_held rfl

/-- What is done when something is printed, and something else behind it. -/
theorem ran_behind_shown {front bytes : List UInt8} {device : Device}
    {shown : ExceptT Stop (StateM Streams) Unit} {next : Unit → ExceptT Stop (StateM Streams) Nat}
    (hlines : front ++ bytes <+: Utf8.bytes intent.lines)
    (hfront : Sent (.fresh around.stdout) front (.ok (), device))
    (hshown : Shown around device bytes (runOn shown (around.printed device)))
    (hnext : ∀ after, Sent (.fresh around.stdout) (front ++ bytes) (.ok (), after) →
      Ran around intent (runOn (next ()) (around.printed after))) :
    Ran around intent (runOn (shown >>= next) (around.printed device)) := by
  rw [runOn_bind]
  generalize runOn shown (around.printed device) = result at hshown ⊢
  cases hshown with
  | whole hsent => exact hnext _ (hfront.append hsent)
  | part hsent =>
      obtain ⟨more, hmore⟩ := hlines
      have hrefused := (hfront.append hsent).append_of_refused more
      rw [hmore] at hrefused
      exact .unprinted hrefused

/-- Every line that is printed ends in a line feed. -/
theorem getLast?_printed :
    ∀ line ∈ banner :: notice :: heading, (Utf8.bytes line).getLast? = some 10 := by
  decide +kernel

/-- **What is done at a prompt**, by what is typed there. -/
theorem ran_runPrompt {texts : List String} {rest : List (List UInt8)}
    (h : Typed around.input.bytes texts rest) :
    ∃ intent, Prompted texts rest intent ∧
      Ran around intent (runOn (runPrompt around.system) around.streams) := by
  have hread : ∀ streams, runOn (readProgram around.system) streams =
      ((readFrom around.input).1.mapError fun cause => .failure (.unreadableInput cause),
        streams) :=
    fun _ => rfl
  have hnone := sent_fresh around.stdout
  have hbanner := shown_line around (getLast?_printed banner List.mem_cons_self)
    (.fresh around.stdout)
  by_cases hrest : ∀ line ∈ rest.head?, lineText? line ≠ none
  · have hprogram := (h.readFrom_eq_ok hrest).1
    cases texts with
    | nil =>
        have hlines := Utf8.bytes_append banner notice
        refine ⟨_, .nothing hrest rfl, ran_behind_shown ⟨_, hlines.symm⟩ hnone hbanner ?_⟩
        intro device hsent
        rw [List.nil_append] at hsent
        rw [runOn_bind, hread, hprogram]
        have hnotice := getLast?_printed notice (List.mem_cons_of_mem _ List.mem_cons_self)
        refine ran_behind_shown ?_ hsent (shown_line around hnotice device) ?_
        · exact hlines ▸ List.prefix_rfl
        · intro after hsent
          rw [← hlines] at hsent
          exact .done hsent (.nothing rfl) (added_nothing _)
    | cons text texts =>
        have hlines := Utf8.bytes_append banner (String.join heading)
        refine ⟨_, .program hrest (List.cons_ne_nil _ _) rfl,
          ran_behind_shown ⟨_, hlines.symm⟩ hnone hbanner ?_⟩
        intro device hsent
        rw [List.nil_append] at hsent
        rw [runOn_bind, hread, hprogram, program_cons]
        have hheading : ∀ line ∈ heading, (Utf8.bytes line).getLast? = some 10 := fun line hline =>
          getLast?_printed line (List.mem_cons_of_mem _ (List.mem_cons_of_mem _ hline))
        refine ran_behind_shown ?_ hsent (shown_lines around hheading device) ?_
        · exact hlines ▸ List.prefix_rfl
        · intro after hsent
          rw [← hlines] at hsent
          exact ran_analyze _ promptName (fun _ => 0) hsent
  · simp only [ne_eq, not_forall, not_not] at hrest
    obtain ⟨line, hhead, hline⟩ := hrest
    obtain ⟨others, rfl⟩ := List.head?_eq_some_iff.mp hhead
    refine ⟨_, .unreadable rfl hline, ran_behind_shown List.prefix_rfl hnone hbanner ?_⟩
    intro device hsent
    rw [runOn_bind, hread, (h.readFrom_eq_error hline).1]
    exact .failed hsent rfl rfl rfl

-- ── The command ─────────────────────────────────────────────────────────────────────

/-- **What the command leaves behind**, with any arguments in any surroundings. -/
theorem run_outcome (arguments : List String) (around : Surroundings) :
    Outcome arguments around (report arguments around) where
  file := by
    rintro path bytes rfl hfile
    have hran := ran_runFile hfile
    have hkept : Kept around _ (report [path] around) := hran.kept
    refine ⟨hkept, ?_, ?_⟩
    · intro t ht hkind
      rw [lines_eq_nil_iff, error?_eq_none_iff ht]
      exact hkind
    · intro hout herr
      obtain ⟨hending, hsaid⟩ := hkept.done hout herr
      rw [hending, hsaid, ne_eq, Utf8.bytes_eq_nil_iff, ← ne_eq, diagnostics_ne_empty_iff]
      dsimp only
      split <;> simp [*]
  unreadable := by
    rintro path cause rfl hfile
    have hfailed : runOn (runMode around.system (.ofArguments [path])) around.streams =
        (.error (.failure (.unreadableFile path cause)), around.streams) := runFile_of_error hfile
    exact declined_of_failed hfailed
  misuse := by
    intro hlength
    obtain ⟨first, second, others, rfl⟩ : ∃ first second others,
        arguments = first :: second :: others := by
      match arguments, hlength with
      | first :: second :: others, _ => exact ⟨first, second, others, rfl⟩
    have hfailed : runOn (runMode around.system (.ofArguments (first :: second :: others)))
        around.streams = (.error (.failure .usage), around.streams) := rfl
    exact declined_of_failed hfailed
  prompt := by
    rintro rfl
    obtain ⟨texts, rest, htyped⟩ := exists_typed around.input.bytes
    obtain ⟨intent, hprompted, hran⟩ := ran_runPrompt htyped
    exact ⟨texts, rest, intent, htyped, hprompted, hran.kept⟩

end KindLex.CommandLine
