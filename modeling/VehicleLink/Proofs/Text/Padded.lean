import VehicleLink.Proofs.Text.Utf8
import VehicleLink.Text.Padded

/-!
# Proofs/Text/Padded — what is read from a padded text can be written back

The text read from bytes is spelled by the bytes that start them (`prefix_utf8_leadingText`), and
reading a spelling gives the text (`leadingText_utf8`).  So the text of a padded text has room in it
and no zero, and storing it again gives a padded text with the same text
(`PaddedText.text_ofText_text`).
-/

namespace VehicleLink

/-! ## Leading characters -/

theorem leadingChar?_utf8EncodeChar_append (c : Char) (rest : List UInt8) :
    leadingChar? (String.utf8EncodeChar c ++ rest) = some c := by
  rw [leadingChar?, List.toByteArray_append]
  exact ByteArray.utf8DecodeChar?_utf8EncodeChar_append

/-- The leading character is spelled by the bytes it is read from. -/
theorem eq_append_of_leadingChar? {bytes : List UInt8} {c : Char}
    (h : leadingChar? bytes = some c) : ∃ rest, bytes = String.utf8EncodeChar c ++ rest := by
  obtain ⟨rest, hsplit⟩ := ByteArray.exists_of_utf8DecodeChar?_eq_some h
  have hbytes := congrArg (fun array => array.data.toList) hsplit
  simp only [ByteArray.data_append, Array.toList_append, List.toList_data_toByteArray] at hbytes
  exact ⟨rest.data.toList, hbytes⟩

theorem leadingChars_utf8EncodeChar_append (c : Char) (rest : List UInt8) :
    leadingChars (String.utf8EncodeChar c ++ rest) = c :: leadingChars rest := by
  rw [leadingChars]
  split
  · next c' h =>
    rw [leadingChar?_utf8EncodeChar_append] at h
    obtain rfl := Option.some.inj h
    rw [List.drop_left' (String.length_utf8EncodeChar c)]
  · next h =>
    rw [leadingChar?_utf8EncodeChar_append] at h
    cases h

/-- **A spelling is read as the text it spells.** -/
theorem leadingText_utf8 (text : String) : leadingText (utf8 text) = text := by
  have hchars (cs : List Char) : leadingChars (cs.flatMap String.utf8EncodeChar) = cs := by
    induction cs with
    | nil =>
      rw [List.flatMap_nil, leadingChars]
      rfl
    | cons c cs ih => rw [List.flatMap_cons, leadingChars_utf8EncodeChar_append, ih]
  rw [leadingText, utf8_eq_flatMap, hchars, String.ofList_toList]

/-- **The text that is read is spelled by the bytes that come first.** -/
theorem prefix_utf8_leadingText (bytes : List UInt8) : utf8 (leadingText bytes) <+: bytes := by
  rw [leadingText, utf8_ofList]
  induction bytes using leadingChars.induct with
  | case1 bytes c h ih =>
    obtain ⟨rest, rfl⟩ := eq_append_of_leadingChar? h
    rw [List.drop_left' (String.length_utf8EncodeChar c)] at ih
    rw [leadingChars_utf8EncodeChar_append, List.flatMap_cons]
    exact (List.prefix_append_right_inj _).mpr ih
  | case2 bytes h =>
    rw [leadingChars]
    split
    · next c h' =>
      rw [h] at h'
      cases h'
    · exact List.nil_prefix

/-! ## Cutting -/

/-- A text that has room is not cut. -/
theorem fit_of_le {room : Nat} {cs : List Char}
    (h : (cs.flatMap String.utf8EncodeChar).length ≤ room) : fit room cs = cs := by
  induction cs generalizing room with
  | nil => rw [fit]
  | cons c cs ih =>
    rw [List.flatMap_cons, List.length_append, String.length_utf8EncodeChar] at h
    rw [fit, if_pos (by omega), ih (by omega)]

namespace PaddedText

variable {capacity : Nat}

theorem length_utf8_text_le (padded : PaddedText capacity) :
    (utf8 padded.text).length ≤ capacity := by
  have hread := (prefix_utf8_leadingText (padded.bytes.takeWhile (· ≠ 0))).length_le
  have hzero :=
    (List.takeWhile_prefix (l := padded.bytes) (fun byte => decide (byte ≠ 0))).length_le
  rw [padded.length_bytes] at hzero
  exact Nat.le_trans hread hzero

theorem zero_not_mem_utf8_text (padded : PaddedText capacity) : 0 ∉ utf8 padded.text := by
  intro hmem
  have hread := (prefix_utf8_leadingText (padded.bytes.takeWhile (· ≠ 0))).subset hmem
  have hall := List.all_eq_true.mp List.all_takeWhile 0 hread
  exact absurd hall (by decide)

/-- A text that has room is stored as its spelling and zeros. -/
theorem bytes_ofText_of_le {text : String} (h : (utf8 text).length ≤ capacity) :
    (ofText capacity text).bytes = (utf8 text).rightpad capacity 0 := by
  rw [utf8_eq_flatMap] at h
  rw [bytes_ofText, fit_of_le h, String.ofList_toList]

/-- **A text that has room and no zero is read back as it was stored.** -/
theorem text_ofText {text : String} (hroom : (utf8 text).length ≤ capacity)
    (hzero : 0 ∉ utf8 text) : (ofText capacity text).text = text := by
  have hplain : ∀ byte ∈ utf8 text, decide (byte ≠ 0) := by
    intro byte hmem
    refine decide_eq_true ?_
    rintro rfl
    exact hzero hmem
  have hzeros (count : Nat) : (List.replicate count (0 : UInt8)).takeWhile (· ≠ 0) = [] := by
    cases count <;> rfl
  rw [PaddedText.text, bytes_ofText_of_le hroom, List.rightpad,
    List.takeWhile_append_of_pos hplain, hzeros, List.append_nil, leadingText_utf8]

/-- **Storing the text of a padded text again changes nothing about the text.** -/
theorem text_ofText_text (padded : PaddedText capacity) :
    (ofText capacity padded.text).text = padded.text :=
  text_ofText padded.length_utf8_text_le padded.zero_not_mem_utf8_text

end PaddedText

end VehicleLink
