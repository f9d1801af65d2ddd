import VehicleLink.Proofs.Sentence.Column
import VehicleLink.Proofs.Text.Pieces

/-!
# Proofs/Sentence/Canonical — the one line that a sentence is sent as

`bodyBytes` and `fullBytes` are the body and the whole line of a sentence, as concatenations.  The
writer fills a sink piece by piece and drops what does not fit, and what it has written is always a
leading part of that line (`bytes_eq_take`).

The body is the spelling of a text: the header and the texts of the columns, joined by commas
(`utf8_bodyText`).
-/

namespace VehicleLink

namespace SentenceType

variable (type : SentenceType) (talker : String) (sentence : type.Sentence)

/-- What stands between the start character and the star. -/
def bodyBytes : List UInt8 :=
  utf8 talker ++ utf8 type.id ++ 0x2C :: [0x2C].intercalate ((texts sentence).map utf8)

/-- The whole line of a sentence. -/
def fullBytes : List UInt8 :=
  let (high, low) := Checksum.digits (Checksum.ofBytes (type.bodyBytes talker sentence))
  0x24 :: type.bodyBytes talker sentence ++ [0x2A, high, low, 0x0D, 0x0A]

end SentenceType

/-! ## The writer -/

theorem Sink.push_nil (sink : Sink) : sink.push [] = sink := by
  rw [push, List.take_nil, List.append_nil]

/-- Columns behind the first are pushed with a comma in front of each. -/
theorem FieldWriter.foldl_put (writer : FieldWriter) (h : 0 < writer.count) (texts : List String) :
    (texts.foldl put writer).sink
      = writer.sink.push (texts.flatMap fun text => 0x2C :: utf8 text) := by
  induction texts generalizing writer with
  | nil => exact writer.sink.push_nil.symm
  | cons text texts ih =>
    rw [List.foldl_cons, ih _ (Nat.succ_pos _), put, if_pos h, Sink.push_push, Sink.push_push,
      List.flatMap_cons]
    rfl

theorem intercalate_comma (piece : List UInt8) (pieces : List (List UInt8)) :
    [0x2C].intercalate (piece :: pieces) = piece ++ pieces.flatMap (0x2C :: ·) := by
  induction pieces generalizing piece with
  | nil => rw [List.intercalate_singleton, List.flatMap_nil, List.append_nil]
  | cons piece' pieces ih =>
    rw [List.intercalate_cons_cons, ih, List.flatMap_cons, List.append_assoc]
    rfl

namespace SentenceType

variable (type : SentenceType) (talker : String) (sentence : type.Sentence) (capacity : Nat)

theorem sink_writeFields :
    (type.writeFields talker sentence capacity).sink
      = (Sink.empty capacity).push (0x24 :: type.bodyBytes talker sentence) := by
  have hstart : ((((Sink.empty capacity).push [0x24]).push (utf8 talker)).push
      (utf8 type.id)).push [0x2C]
      = (Sink.empty capacity).push (0x24 :: (utf8 talker ++ utf8 type.id ++ [0x2C])) := by
    rw [Sink.push_push, Sink.push_push, Sink.push_push, List.append_assoc (utf8 talker)]
    rfl
  rw [writeFields]
  simp only [hstart]
  cases htexts : texts sentence with
  | nil => rw [bodyBytes, htexts, List.map_nil, List.intercalate_nil, List.foldl_nil]
  | cons text texts =>
    rw [List.foldl_cons, FieldWriter.foldl_put _ (Nat.succ_pos _), FieldWriter.put,
      if_neg (Nat.lt_irrefl 0), Sink.push_push, Sink.push_push, bodyBytes, htexts, List.map_cons,
      intercalate_comma, List.flatMap_map]
    simp only [List.cons_append, List.append_assoc, List.nil_append]

/-- **What is written of a sentence is a leading part of its line.**  The checksum is that of what
is written of the body, but it is written only if all of the body is. -/
theorem bytes_eq_take :
    type.bytes talker sentence capacity = (type.fullBytes talker sentence).take capacity := by
  rw [bytes, sink_writeFields, Sink.written_push_empty]
  rcases Nat.lt_or_ge capacity (0x24 :: type.bodyBytes talker sentence).length with hcut | hroom
  · -- Nothing behind the body fits, so the digits do not matter.
    simp only [Sink.push_push, Sink.written_push_empty, fullBytes, List.append_assoc]
    rw [List.take_append_of_le_length (Nat.le_of_lt hcut),
      List.take_append_of_le_length (Nat.le_of_lt hcut)]
  · rw [List.take_of_length_le hroom, List.drop_one, List.tail_cons]
    simp only [Sink.push_push, Sink.written_push_empty, fullBytes, List.append_assoc]
    rfl

/-! ## Cutting the line apart again -/

variable {type talker sentence}

theorem utf8_bodyText (h : type.columns ≠ []) :
    utf8 (commaJoin ((talker ++ type.id) :: texts sentence)) = type.bodyBytes talker sentence := by
  have htexts : (texts sentence).map utf8 ≠ [] := by
    rw [ne_eq, List.map_eq_nil_iff, ← List.length_eq_zero_iff, texts, Row.length_toList,
      List.length_eq_zero_iff]
    exact h
  rw [utf8_commaJoin, List.map_cons, List.intercalate_cons_of_ne_nil htexts, bodyBytes, utf8_append,
    List.append_assoc]
  rfl

end SentenceType

end VehicleLink
