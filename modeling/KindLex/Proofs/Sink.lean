import KindLex.Proofs.Writer

/-!
# What a sink holds

A table and the diagnostics are written piece by piece, and the writing stops at the first piece
that does not find room.  What a sink then holds, and whether the writing failed, does not depend on
where one piece ends and the next one starts: it is as if the whole text had been put at once.  So a
sink with room for some bytes holds as many bytes of what a sink without bound would hold.

* **`put_append`**: putting two texts in turn is putting one.
* **`law_writes`**: what is written in two parts is written at once.
* **`Writes.prefixLaw`**: a sink with room for some bytes holds that many, and fails if there are
  more.
* **`write_law`**: the table and the diagnostics of any tokens.
-/

namespace KindLex

namespace Sink

/-- `Writes writing text`: on every sink, the writing does what putting the text at once does. -/
def Writes (writing : ExceptT WriteError (StateM Sink) Unit) (text : String) : Prop :=
  ∀ sink : Sink, sink.after writing = sink.put text

/-- A writing of a text, on sinks that hold nothing yet. -/
structure PrefixLaw (write : Sink → Sink × Option WriteError) (text : String) : Prop where
  /-- A sink without bound takes all of the text. -/
  unbounded : write (empty none) = (⟨none, text.toUTF8⟩, none)
  /-- A sink with room for `n` bytes takes the first `n` bytes of the text. -/
  written : ∀ n, (write (empty (some n))).1.written = text.toUTF8.extract 0 n
  /-- The writing fails exactly if the text has more. -/
  fails : ∀ n, (write (empty (some n))).2 = if n < text.toUTF8.size then some .full else none
  /-- Where the room ends behind a character, the sink holds the text up to there. -/
  parted : ∀ front behind, text = front ++ behind →
    (write (empty (some front.utf8ByteSize))).1.written = front.toUTF8

-- ── Putting texts ───────────────────────────────────────────────────────────────────

section Put

variable {room : Nat} {written : ByteArray} {text : String}

theorem put_unbounded (written : ByteArray) (text : String) :
    put ⟨none, written⟩ text = (⟨none, written ++ text.toUTF8⟩, none) :=
  rfl

theorem put_of_le (h : text.toUTF8.size ≤ room) :
    put ⟨some room, written⟩ text =
      (⟨some (room - text.toUTF8.size), written ++ text.toUTF8⟩, none) :=
  if_pos h

theorem put_of_lt (h : room < text.toUTF8.size) :
    put ⟨some room, written⟩ text =
      (⟨some 0, written ++ text.toUTF8.extract 0 room⟩, some .full) :=
  if_neg (Nat.not_le.mpr h)

end Put

/-- As many bytes as there are, or more, are all bytes. -/
theorem extract_of_size_le {bytes : ByteArray} {n : Nat} (h : bytes.size ≤ n) :
    bytes.extract 0 n = bytes := by
  rw [ByteArray.ext_iff, ByteArray.data_extract]
  exact Array.extract_eq_self_of_le h

/-- Nothing is put where there is no text, also where there is no room. -/
theorem put_empty (sink : Sink) : sink.put "" = (sink, none) := by
  obtain ⟨room, written⟩ := sink
  have hbytes : "".toUTF8 = ByteArray.empty := String.toByteArray_empty
  cases room with
  | none => rw [put_unbounded, hbytes, ByteArray.append_empty]
  | some room =>
      rw [put_of_le (hbytes ▸ Nat.zero_le room), hbytes, ByteArray.append_empty]
      rfl

/-- **Putting two texts in turn is putting one.** -/
theorem put_append (sink : Sink) (front behind : String) :
    sink.put (front ++ behind) =
      match sink.put front with
      | (after, none)       => after.put behind
      | (after, some error) => (after, some error) := by
  obtain ⟨room, written⟩ := sink
  have hbytes : (front ++ behind).toUTF8 = front.toUTF8 ++ behind.toUTF8 :=
    String.toByteArray_append
  have hsize : (front ++ behind).toUTF8.size = front.toUTF8.size + behind.toUTF8.size := by
    rw [hbytes, ByteArray.size_append]
  cases room with
  | none =>
      rw [put_unbounded, put_unbounded, hbytes, ← ByteArray.append_assoc]
      rfl
  | some room =>
      rcases Nat.lt_or_ge room front.toUTF8.size with hfront | hfront
      · -- the first text already takes all the room
        have hnone : behind.toUTF8.extract (0 - front.toUTF8.size) (room - front.toUTF8.size) =
            ByteArray.empty := by
          rw [ByteArray.extract_eq_empty_iff]
          omega
        rw [put_of_lt hfront, put_of_lt (by omega), hbytes, ByteArray.extract_append, hnone,
          ByteArray.append_empty]
      · rw [put_of_le hfront]
        show _ = put ⟨some (room - front.toUTF8.size), written ++ front.toUTF8⟩ behind
        rcases Nat.lt_or_ge (room - front.toUTF8.size) behind.toUTF8.size with hbehind | hbehind
        · rw [put_of_lt hbehind, put_of_lt (by omega), hbytes, ByteArray.extract_append,
            extract_of_size_le hfront, Nat.zero_sub, ByteArray.append_assoc]
        · rw [put_of_le hbehind, put_of_le (by omega), hsize, hbytes, ByteArray.append_assoc,
            Nat.sub_sub]

-- ── Writing in turn ─────────────────────────────────────────────────────────────────

/-- What is written behind something else is left out where that does not find room. -/
theorem after_bind (sink : Sink) (first second : ExceptT WriteError (StateM Sink) Unit) :
    sink.after (first >>= fun _ => second) =
      match sink.after first with
      | (after, none)       => after.after second
      | (after, some error) => (after, some error) := by
  rw [after, runOn_bind, after]
  cases runOn first sink with
  | mk result after => cases result <;> rfl

theorem writes_put (text : String) : Writes (writer.put text) text := by
  intro sink
  have hput : runOn (writer.put text) sink =
      match sink.put text with
      | (after, none)       => (.ok (), after)
      | (after, some error) => (.error error, after) := rfl
  rw [after, hput]
  rcases sink.put text with ⟨after, error | error⟩ <;> rfl

/-- **What is written in two parts is written at once**, and so is every text that is put. -/
theorem law_writes : writer.Law Writes where
  nothing sink := (put_empty sink).symm
  put := writes_put
  bind := by
    intro first second front behind hfirst hsecond sink
    rw [after_bind, hfirst, put_append]
    split
    · exact hsecond _
    · rfl

/-- **A sink with room for some bytes holds that many**, and the writing fails if there are more. -/
theorem Writes.prefixLaw {writing : ExceptT WriteError (StateM Sink) Unit} {text : String}
    (h : Writes writing text) : PrefixLaw (·.after writing) text := by
  have hwritten : ∀ n, (after (.empty (some n)) writing).1.written = text.toUTF8.extract 0 n := by
    intro n
    rw [h, empty]
    rcases Nat.lt_or_ge n text.toUTF8.size with hn | hn
    · rw [put_of_lt hn]
      exact ByteArray.empty_append
    · rw [put_of_le hn, extract_of_size_le hn]
      exact ByteArray.empty_append
  refine ⟨?_, hwritten, ?_, ?_⟩
  · rw [h, empty, put_unbounded, ByteArray.empty_append]
  · intro n
    rw [h, empty]
    rcases Nat.lt_or_ge n text.toUTF8.size with hn | hn
    · rw [put_of_lt hn, if_pos hn]
    · rw [put_of_le hn, if_neg (Nat.not_lt.mpr hn)]
  · rintro front behind rfl
    have hbytes : (front ++ behind).toUTF8 = front.toUTF8 ++ behind.toUTF8 :=
      String.toByteArray_append
    rw [hwritten, hbytes]
    exact ByteArray.extract_append_eq_left rfl

end Sink

open Sink

namespace Diagnostic

/-- A token without an error, and no other, writes nothing on any sink and never fails. -/
theorem write_eq_iff (source file : String) (t : Token) :
    (∀ sink, write source file sink t = (sink, none)) ↔ t.error? = none := by
  constructor
  · intro hsilent
    cases hcause : t.error? with
    | none => rfl
    | some cause =>
        -- there would be no text to write, but its first line ends in a line feed
        have hwritten := (law_writes.diagnostic source file t).prefixLaw.unbounded
        have hnone : (empty none).after (writeTo writer source file t) = (empty none, none) :=
          hsilent (empty none)
        rw [hnone] at hwritten
        have hbytes : ByteArray.empty = (String.join (lines t source file)).toUTF8 :=
          congrArg Sink.written (Prod.mk.inj hwritten).1
        have hempty : "" = String.join (lines t source file) := String.toByteArray_inj.mp hbytes
        rw [lines, hcause] at hempty
        have hlist := congrArg String.toList hempty
        simp [block, String.join_cons, String.toList_append] at hlist
  · intro hnone sink
    rw [write, writeTo, hnone]
    rfl

end Diagnostic

/-- What reaches a sink of the table, and of the diagnostics, of some tokens. -/
structure WriteLaw (tokens : List Token) (source file : String) : Prop where
  table : PrefixLaw (Table.write · tokens) (Table.text tokens)
  diagnostics : PrefixLaw (Diagnostic.writeAll source file · tokens)
    (String.join (Diagnostic.allLines tokens source file))
  /-- A token writes nothing, and never fails, on any sink exactly if it has no error. -/
  silent : ∀ t, (∀ sink, Diagnostic.write source file sink t = (sink, none)) ↔ t.error? = none

/-- **The table and the diagnostics of any tokens**, on sinks with and without a bound. -/
theorem write_law (tokens : List Token) (source file : String) : WriteLaw tokens source file where
  table := (law_writes.table tokens).prefixLaw
  diagnostics := (law_writes.diagnostics source file tokens).prefixLaw
  silent := Diagnostic.write_eq_iff source file

end KindLex
