import Mathlib.Data.Nat.Find
import VehicleLink.Proofs.Text.Padded

/-!
# Proofs/Text/Normal — reading whatever bytes are stored

A padded text may hold any bytes.  What is read from it is the longest front of the bytes before the
first zero that spells a text, wherever these stop being well formed (`text_is_longest_spelling`).
Storing this again gives the normal form: two padded texts have the same one exactly if they are read
alike, although they may differ in the bytes that are not read.

The engine is `IsSpelling.prefix_leadingText`: a front that spells a text is read as this text,
whatever follows it.
-/

namespace VehicleLink

/-! ## Fronts that spell a text -/

/-- Whether bytes spell a text from first to last. -/
def IsSpelling (bytes : List UInt8) : Prop := ∃ text : String, utf8 text = bytes

theorem isSpelling_iff_isSome {bytes : List UInt8} : IsSpelling bytes ↔ (text? bytes).isSome := by
  rw [Option.isSome_iff_exists]
  exact exists_congr fun _ => text?_eq_some_iff.symm

instance : DecidablePred IsSpelling := fun _ => decidable_of_iff _ isSpelling_iff_isSome.symm

theorem leadingChars_spelling_append (cs : List Char) (rest : List UInt8) :
    leadingChars (cs.flatMap String.utf8EncodeChar ++ rest) = cs ++ leadingChars rest := by
  induction cs with
  | nil => rfl
  | cons c cs ih =>
    rw [List.flatMap_cons, List.append_assoc, leadingChars_utf8EncodeChar_append, ih,
      List.cons_append]

theorem leadingText_utf8_append (text : String) (rest : List UInt8) :
    leadingText (utf8 text ++ rest) = text ++ leadingText rest := by
  rw [leadingText, utf8_eq_flatMap, leadingChars_spelling_append, String.ofList_append,
    String.ofList_toList, leadingText]

/-- **A front that spells a text is read**, whatever follows it. -/
theorem IsSpelling.prefix_leadingText {front bytes : List UInt8} (h : IsSpelling front)
    (hfront : front <+: bytes) : front <+: utf8 (leadingText bytes) := by
  obtain ⟨text, rfl⟩ := h
  obtain ⟨rest, rfl⟩ := hfront
  rw [leadingText_utf8_append, utf8_append]
  exact List.prefix_append ..

/-- The last place that the bytes spell a text up to. -/
def spellingEnd (bytes : List UInt8) : Nat :=
  Nat.findGreatest (fun place => IsSpelling (bytes.take place)) bytes.length

theorem take_length_utf8_leadingText (bytes : List UInt8) :
    bytes.take (utf8 (leadingText bytes)).length = utf8 (leadingText bytes) :=
  (List.prefix_iff_eq_take.mp (prefix_utf8_leadingText bytes)).symm

/-- **It is where the text that is read ends.** -/
theorem spellingEnd_eq (bytes : List UInt8) :
    spellingEnd bytes = (utf8 (leadingText bytes)).length := by
  refine Nat.findGreatest_eq_iff.mpr ⟨(prefix_utf8_leadingText bytes).length_le, fun _ => ?_, ?_⟩
  · rw [take_length_utf8_leadingText]
    exact ⟨_, rfl⟩
  · intro place hlater hplace hspelling
    have hle := (hspelling.prefix_leadingText (List.take_prefix place bytes)).length_le
    rw [List.length_take, Nat.min_eq_left hplace] at hle
    omega

/-- So what stands before it can be read, from first to last. -/
theorem text?_take_spellingEnd (bytes : List UInt8) :
    text? (bytes.take (spellingEnd bytes)) = some (leadingText bytes) := by
  rw [spellingEnd_eq, take_length_utf8_leadingText, text?_utf8]

/-! ## Normal forms -/

namespace PaddedText

variable {capacity : Nat}

theorem eq_of_bytes_eq {padded other : PaddedText capacity} (h : padded.bytes = other.bytes) :
    padded = other := by
  obtain ⟨bytes, hlength⟩ := padded
  obtain ⟨otherBytes, hother⟩ := other
  obtain rfl : bytes = otherBytes := h
  rfl

theorem prefix_utf8_text (padded : PaddedText capacity) : utf8 padded.text <+: padded.bytes :=
  (prefix_utf8_leadingText _).trans (List.takeWhile_prefix _)

/-- The padded text with the same text, stored again. -/
def normal (padded : PaddedText capacity) : PaddedText capacity := ofText capacity padded.text

/-- Whether the bytes are a text without a zero, and zeros behind it. -/
def IsNormal (padded : PaddedText capacity) : Prop :=
  ∃ text : String, 0 ∉ utf8 text ∧
    padded.bytes = utf8 text ++ List.replicate (capacity - (utf8 text).length) 0

theorem bytes_normal (padded : PaddedText capacity) : padded.normal.bytes
    = utf8 padded.text ++ List.replicate (capacity - (utf8 padded.text).length) 0 :=
  bytes_ofText_of_le padded.length_utf8_text_le

@[simp] theorem text_normal (padded : PaddedText capacity) : padded.normal.text = padded.text :=
  padded.text_ofText_text

theorem isNormal_normal (padded : PaddedText capacity) : padded.normal.IsNormal :=
  ⟨padded.text, padded.zero_not_mem_utf8_text, padded.bytes_normal⟩

/-- **Padded texts have the same normal form exactly if they are read alike.** -/
theorem normal_eq_normal_iff {padded other : PaddedText capacity} :
    padded.normal = other.normal ↔ padded.text = other.text := by
  constructor
  · intro h
    rw [← padded.text_normal, h, other.text_normal]
  · exact congrArg (ofText capacity)

theorem normal_normal (padded : PaddedText capacity) : padded.normal.normal = padded.normal :=
  normal_eq_normal_iff.mpr padded.text_normal

theorem isNormal_iff {padded : PaddedText capacity} : padded.IsNormal ↔ padded.normal = padded := by
  constructor
  · rintro ⟨text, hzero, hbytes⟩
    have hroom : (utf8 text).length ≤ capacity := by
      have hlength := padded.length_bytes
      rw [hbytes, List.length_append] at hlength
      omega
    have hstored : ofText capacity text = padded :=
      eq_of_bytes_eq ((bytes_ofText_of_le hroom).trans hbytes.symm)
    rw [normal, ← hstored, text_ofText hroom hzero]
  · intro h
    exact h ▸ padded.isNormal_normal

/-- **A padded text is its normal form exactly if all that is not read is zero.** -/
theorem normal_eq_iff {padded : PaddedText capacity} :
    padded.normal = padded ↔ ∀ byte ∈ padded.bytes.drop (utf8 padded.text).length, byte = 0 := by
  obtain ⟨rest, hrest⟩ := padded.prefix_utf8_text
  have hlength : rest.length = capacity - (utf8 padded.text).length := by
    have hbytes := padded.length_bytes
    rw [← hrest, List.length_append] at hbytes
    omega
  have hdrop : padded.bytes.drop (utf8 padded.text).length = rest := by
    rw [← hrest, List.drop_left]
  have hzeros : rest = List.replicate (capacity - (utf8 padded.text).length) 0
      ↔ ∀ byte ∈ rest, byte = 0 := by
    rw [List.eq_replicate_iff, and_iff_right hlength]
  rw [hdrop, ← hzeros]
  constructor
  · intro h
    have hbytes := (congrArg bytes h).symm.trans padded.bytes_normal
    rw [← hrest] at hbytes
    exact List.append_cancel_left hbytes
  · intro h
    refine eq_of_bytes_eq ?_
    rw [bytes_normal, ← h, hrest]

theorem isEmpty_iff {padded : PaddedText capacity} : padded.isEmpty ↔ utf8 padded.text = [] := by
  rw [isEmpty, String.isEmpty_iff]
  constructor
  · intro h
    rw [h, utf8_empty]
  · intro h
    exact Option.some.inj (((text?_utf8 _).symm.trans (congrArg text? h)).trans (text?_utf8 ""))

/-- **The longest front that spells a text is read, from any bytes.**

Of the bytes before the first zero, or of all if there is none, those are read that come first and
spell a text, and no longer front spells one; in particular all of them if they spell a text.  The
bytes up to the last place where they do can be read by themselves.  There is nothing to read exactly
if no front but the empty one spells a text.

Storing the text again gives the normal form, a text without a zero and zeros behind it, which is
read alike and is its own normal form.  It is the padded text itself exactly if every byte behind the
text is zero, and two padded texts have the same normal form exactly if they are read alike. -/
theorem text_is_longest_spelling (padded : PaddedText capacity) :
    let line := padded.bytes.takeWhile (· ≠ 0)
    ((utf8 padded.text <+: line ∧
        ∀ front, front <+: line → IsSpelling front → front <+: utf8 padded.text) ∧
      (∀ text, text? line = some text → padded.text = text) ∧
      text? (line.take (spellingEnd line)) = some padded.text ∧
      (padded.isEmpty ↔ ∀ front, front <+: line → IsSpelling front → front = [])) ∧
    (padded.normal.IsNormal ∧
      padded.normal.text = padded.text ∧
      padded.normal.normal = padded.normal ∧
      (padded.IsNormal ↔ padded.normal = padded)) ∧
    (padded.normal = padded
      ↔ ∀ byte ∈ padded.bytes.drop (utf8 padded.text).length, byte = 0) ∧
    ∀ other : PaddedText capacity, padded.normal = other.normal ↔ padded.text = other.text := by
  intro line
  have hread : utf8 padded.text <+: line := prefix_utf8_leadingText line
  have hlongest (front : List UInt8) (hfront : front <+: line) (h : IsSpelling front) :
      front <+: utf8 padded.text := h.prefix_leadingText hfront
  refine ⟨⟨⟨hread, hlongest⟩, fun text htext => ?_, text?_take_spellingEnd line, ?_⟩,
    ⟨padded.isNormal_normal, padded.text_normal, padded.normal_normal, isNormal_iff⟩,
    normal_eq_iff, fun _ => normal_eq_normal_iff⟩
  · rw [PaddedText.text, ← leadingText_utf8 text, text?_eq_some_iff.mp htext]
  · rw [isEmpty_iff]
    constructor
    · intro hempty front hfront h
      exact List.prefix_nil.mp (hempty ▸ hlongest front hfront h)
    · exact fun hnone => hnone _ hread ⟨_, rfl⟩

/-- Letters in front of half a surrogate pair, then a zero and a letter that is not read. -/
def surrogate : PaddedText 7 := ⟨[0x6F, 0x6B, 0xED, 0xA0, 0x80, 0x00, 0x78], rfl⟩

theorem text_is_longest_spelling_surrogate :
    ([0x6F, 0x6B] <+: surrogate.bytes.takeWhile (· ≠ 0) ∧ IsSpelling [0x6F, 0x6B]) ∧
      [0x6F, 0x6B] <+: utf8 surrogate.text ∧
      surrogate.normal ≠ surrogate ∧
      surrogate.normal = (ofText 7 "ok").normal := by
  have hfront : [0x6F, 0x6B] <+: surrogate.bytes.takeWhile (· ≠ 0) := by decide
  have hspelling : IsSpelling [0x6F, 0x6B] := ⟨"ok", by decide⟩
  have htext : surrogate.text = "ok" := by decide +kernel
  have hother : (ofText 7 "ok").text = "ok" := by decide +kernel
  obtain ⟨⟨⟨-, hlongest⟩, -⟩, -, hsame, hnormal⟩ := text_is_longest_spelling surrogate
  refine ⟨⟨hfront, hspelling⟩, hlongest _ hfront hspelling, ?_,
    (hnormal _).mpr (htext.trans hother.symm)⟩
  rw [ne_eq, hsame, htext]
  decide +kernel

end PaddedText

end VehicleLink
