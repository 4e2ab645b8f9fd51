import KindLex.Text.Bytes
import Mathlib.Logic.Basic

/-!
# Slices of a text

A slice is asked for by two counts of bytes, and there is one only where the text parts at both: not
beyond its end, and not within a character.

* **`slice?_eq_some_iff`**: a slice is what stands between its places.
* **`places_of_slice?`**: so its places are in order and within the text.
* **`slice?_of_append`**: three parts of a text give the slice in the middle.
-/

namespace KindLex.Text

/-- The part of a text between two counts of bytes.  There is none if a count is beyond the text or
    within a character, or if the part would end before it starts. -/
def slice? (text : String) (start stop : Nat) : Option String := do
  let first ← text.pos? ⟨start⟩
  let last ← text.pos? ⟨stop⟩
  let part ← text.slice? first last
  return part.copy

theorem pos?_eq_some_iff {text : String} {offset : Nat} {place : text.Pos} :
    text.pos? ⟨offset⟩ = some place ↔ place.offset = ⟨offset⟩ := by
  rw [String.pos?, String.Slice.pos?]
  constructor
  · intro h
    split at h
    · obtain rfl := Option.some.inj h
      rfl
    · contradiction
  · intro h
    have hvalid : String.Pos.Raw.isValidForSlice text.toSlice ⟨offset⟩ = true := by
      rw [← h, String.Pos.Raw.isValidForSlice_eq_true_iff]
      exact place.isValid.toSlice
    rw [dif_pos hvalid]
    exact congrArg some (String.Pos.ext h.symm)

/-- **A slice is what stands between its places**, and there is one exactly if the text parts
    there. -/
theorem slice?_eq_some_iff {text part : String} {start stop : Nat} :
    slice? text start stop = some part ↔
      ∃ before after, text = before ++ (part ++ after) ∧ start = before.utf8ByteSize ∧
        stop = (before ++ part).utf8ByteSize := by
  have hcopy : slice? text start stop = some part ↔ ∃ first last : text.Pos,
      first.offset = ⟨start⟩ ∧ last.offset = ⟨stop⟩ ∧
        ∃ hle, (text.slice first last hle).copy = part := by
    simp [slice?, String.slice?, Option.bind_eq_some_iff, pos?_eq_some_iff, exists_exists_eq_and]
  rw [hcopy]
  constructor
  · rintro ⟨first, last, hfirst, hlast, hpart⟩
    obtain ⟨before, after, hbefore, hafter⟩ := String.copy_slice_eq_iff_splits.mp hpart
    refine ⟨before, after, hbefore.eq_append, ?_, ?_⟩
    · exact congrArg String.Pos.Raw.byteIdx (hfirst.symm.trans hbefore.offset_eq_rawEndPos)
    · exact congrArg String.Pos.Raw.byteIdx (hlast.symm.trans hafter.offset_eq_rawEndPos)
  · rintro ⟨before, after, htext, rfl, rfl⟩
    have htext' : text = (before ++ part) ++ after := by rw [htext, String.append_assoc]
    have hbefore := String.Pos.splits_ofEqAppend htext
    have hafter := String.Pos.splits_ofEqAppend htext'
    exact ⟨_, _, hbefore.offset_eq_rawEndPos, hafter.offset_eq_rawEndPos,
      String.copy_slice_eq_iff_splits.mpr ⟨before, after, hbefore, hafter⟩⟩

/-- Three parts of a text give the slice in the middle. -/
theorem slice?_of_append {text : String} {before part after : List Char}
    (htext : text.toList = before ++ (part ++ after)) :
    slice? text (byteCount before) (byteCount (before ++ part)) = some (String.ofList part) := by
  refine slice?_eq_some_iff.mpr ⟨String.ofList before, String.ofList after, ?_, ?_, ?_⟩
  · rw [← String.ofList_append, ← String.ofList_append, ← htext, String.ofList_toList]
  · rw [utf8ByteSize_ofList]
  · rw [← String.ofList_append, utf8ByteSize_ofList]

/-- **The places of a slice are in order, within the text, and within none of its characters.** -/
theorem places_of_slice? {text part : String} {start stop : Nat}
    (h : slice? text start stop = some part) :
    start ≤ stop ∧ stop ≤ text.utf8ByteSize ∧ (⟨start⟩ : String.Pos.Raw).IsValid text ∧
      (⟨stop⟩ : String.Pos.Raw).IsValid text := by
  obtain ⟨before, after, htext, rfl, rfl⟩ := slice?_eq_some_iff.mp h
  have htext' : text = (before ++ part) ++ after := by rw [htext, String.append_assoc]
  refine ⟨?_, ?_, String.Pos.Raw.isValid_iff_exists_append.mpr ⟨before, _, htext, rfl⟩,
    String.Pos.Raw.isValid_iff_exists_append.mpr ⟨_, after, htext', rfl⟩⟩
  · rw [String.utf8ByteSize_append]
    exact Nat.le_add_right _ _
  · have hsize := congrArg String.utf8ByteSize htext'
    rw [String.utf8ByteSize_append] at hsize
    omega

end KindLex.Text
