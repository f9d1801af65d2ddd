import Mathlib.Order.Bounds.Basic
import VehicleLink.Proofs.Frame.Link
import VehicleLink.Proofs.Message.Extension

/-!
# Proofs/Frame/Footprint — what writing a record leaves in the buffer

A buffer that has room for the longest frame is given the one frame of the record at its start, and
is left alone from where the longest frame of that type would end; one that has less room is not
touched at all (`write_leaves_canonical_frame`).  The frame is spelled out byte by byte
(`canonicalBytes`), with a payload of the least length that can be filled up with zeros again
(`isLeast_keptLength`).
-/

namespace VehicleLink

/-! ## The least payload -/

/-- Zeros make a payload of its first bytes again when all that is left out is zero. -/
theorem extended_take_eq_iff {payload : List UInt8} {length : Nat} :
    extended (payload.take length) payload.length = payload
      ↔ (payload.reverse.dropWhile (· = 0)).length ≤ length := by
  have hfill : extended (payload.take length) payload.length
      = payload.take length ++ List.replicate (payload.length - length) 0 := by
    rw [extended, List.rightpad, List.take_of_length_le (List.length_take_le' ..), List.length_take]
    congr 2
    omega
  rw [hfill]
  refine ⟨fun h => ?_, take_append_zeros⟩
  rw [← h, List.reverse_append, List.reverse_replicate, List.dropWhile_append_of_pos (by simp)]
  refine Nat.le_trans (List.dropWhile_suffix _).length_le ?_
  rw [List.length_reverse]
  exact List.length_take_le ..

/-- **What is kept of a payload is the least from which zeros make it again**, but at least a
byte. -/
theorem isLeast_keptLength (payload : List UInt8) :
    IsLeast {length | 1 ≤ length ∧ extended (payload.take length) payload.length = payload}
      (keptLength payload) := by
  constructor
  · exact ⟨Nat.le_max_left .., extended_take_eq_iff.mpr (Nat.le_max_right ..)⟩
  · rintro length ⟨hpos, hfill⟩
    exact Nat.max_le.mpr ⟨hpos, extended_take_eq_iff.mp hfill⟩

/-! ## The frame, byte by byte -/

namespace MessageType

variable (type : MessageType) (record : type.Record) (origin : Origin)

/-- A frame of the record with a payload of the given length: the header, the first bytes of the
record, and the checksum of all but the marker and of the byte that stands for the type. -/
def canonicalBytes (length : Nat) : List UInt8 :=
  let front := [0xFD, UInt8.ofNat length, 0, 0, origin.sequence, origin.systemId,
    origin.componentId] ++ littleEndian 3 type.id ++ extended (encodeRow record) length
  front ++ littleEndian 2 (Crc.bitwise 0xFFFF (front.tail ++ [type.crcExtra])).toNat

theorem sentPayload_eq_extended :
    type.sentPayload record = extended (encodeRow record) (keptLength (encodeRow record)) := by
  rw [sentPayload, extended]
  have hkept := keptLength_le (encodeRow record)
  generalize encodeRow record = payload at hkept ⊢
  cases payload with
  | nil => rfl
  | cons byte payload =>
    rw [List.length_cons, Nat.max_eq_right (Nat.succ_pos _)] at hkept
    have hlength : ((byte :: payload).take (keptLength (byte :: payload))).length
        = keptLength (byte :: payload) := List.length_take_of_le hkept
    rw [List.rightpad, List.rightpad, hlength, List.length_cons,
      Nat.sub_eq_zero_of_le (Nat.succ_pos _), Nat.sub_self, List.replicate_zero, List.append_nil,
      List.append_nil]

theorem frameBytes_eq_canonicalBytes :
    type.frameBytes record origin
      = type.canonicalBytes record origin (keptLength (encodeRow record)) := by
  rw [frameBytes, coveredBytes, length_sentPayload, sentPayload_eq_extended]
  rfl

/-! ## The buffer -/

/-- **Behind the longest payload of the type the buffer is as it was.** -/
theorem drop_write {buffer : List UInt8} (h : maxFrameLength ≤ buffer.length) :
    (type.write record origin buffer).2.drop (12 + max type.encodedLength 1)
      = buffer.drop (12 + max type.encodedLength 1) := by
  have hroom : Version.v2.headerLength ≤ buffer.length := Nat.le_trans (by decide) h
  have hlayout : (encodeRow record).length = type.encodedLength := length_encodeRow record
  have hkept := keptLength_le (encodeRow record)
  rw [type.write_eq record origin h, drop_overwrite (Nat.zero_le _), drop_overwrite hroom]
  · rw [List.length_rightpad, hlayout, Version.headerLength]
    omega
  · rw [length_frameBytes, Version.headerLength, checksumLength]
    omega

theorem length_write {buffer : List UInt8} (h : maxFrameLength ≤ buffer.length) :
    (type.write record origin buffer).2.length = buffer.length := by
  have hlayout := type.layoutSize_le
  rw [← length_encodeRow record] at hlayout
  have hpayload := type.length_sentPayload_le record
  rw [length_sentPayload] at hpayload
  rw [maxFrameLength] at h
  rw [maxPayloadLength] at hlayout hpayload
  have hinner : (overwrite buffer Version.v2.headerLength
      ((encodeRow record).rightpad 1 0)).length = buffer.length := by
    apply length_overwrite
    rw [List.length_rightpad, Version.headerLength]
    omega
  rw [type.write_eq record origin h, length_overwrite, hinner]
  rw [hinner, length_frameBytes, Version.headerLength, checksumLength]
  omega

end MessageType

/-- **Writing a record gives its canonical frame and touches nothing else.**

A buffer that is too short is refused and left as it was.  The bytes of a record are as many as its
layout has, and there is a least payload of at least one byte from which zeros make them again.  For
every buffer that is long enough, the answer is the length of the frame with that payload, and the
frame stands at the start of the buffer, whatever was there before.  The buffer keeps its length,
and its contents from where the longest frame of the type ends.  A message is written as its record
is. -/
theorem write_leaves_canonical_frame (type : MessageType) (record : type.Record)
    (origin : Origin) :
    (∀ buffer : List UInt8, buffer.length < 280 →
      type.write record origin buffer = (.error .overrun, buffer)) ∧
    (encodeRow record).length = type.encodedLength ∧
    (∃ length ≤ 255,
      IsLeast {length | 1 ≤ length ∧
        extended ((encodeRow record).take length) type.encodedLength = encodeRow record} length ∧
      ∀ buffer : List UInt8, 280 ≤ buffer.length → ∃ after,
        type.write record origin buffer = (.ok (12 + length), after) ∧
          after.take (12 + length) = type.canonicalBytes record origin length ∧
          after.length = buffer.length ∧
          ∀ place, 12 + max type.encodedLength 1 ≤ place → after[place]? = buffer[place]?) ∧
    ∀ (message : Message) (buffer : List UInt8),
      message.write origin buffer = message.kind.type.write message.record origin buffer := by
  have hlayout : (encodeRow record).length = type.encodedLength := length_encodeRow record
  have hleast := isLeast_keptLength (encodeRow record)
  have hfits := type.length_sentPayload_le record
  rw [type.length_sentPayload] at hfits
  refine ⟨fun buffer hshort => if_pos hshort, hlayout,
    ⟨keptLength (encodeRow record), hfits, hlayout ▸ hleast, fun buffer hlong => ?_⟩,
    fun message buffer => rfl⟩
  have hwrite := type.write_eq record origin hlong
  have hlength : (type.frameBytes record origin).length = 12 + keptLength (encodeRow record) := by
    rw [type.length_frameBytes, Version.headerLength, checksumLength]
    omega
  refine ⟨(type.write record origin buffer).2, ?_, ?_, type.length_write record origin hlong,
    fun place hplace => ?_⟩
  · rw [hwrite, hlength]
  · rw [hwrite, ← hlength, take_overwrite_zero, type.frameBytes_eq_canonicalBytes]
  · obtain ⟨count, rfl⟩ := Nat.exists_eq_add_of_le hplace
    rw [← List.getElem?_drop, type.drop_write record origin hlong, List.getElem?_drop]

/-- A heartbeat whose last byte is zero, in a buffer that is one byte too short and in one that is
longer than it needs to be. -/
theorem write_leaves_canonical_frame_heartbeat :
    let short : List UInt8 := .replicate 279 0xAA
    let long : List UInt8 := .replicate 300 0xAA
    let record := Frame.noisyHeartbeat.record
    short.length < 280 ∧ MessageType.heartbeat.write record ⟨1, 200, 255⟩ short
        = (.error .overrun, short) ∧
      280 ≤ long.length ∧ ∃ after,
        MessageType.heartbeat.write record ⟨1, 200, 255⟩ long = (.ok 20, after) ∧
          after.take 20 = MessageType.heartbeat.canonicalBytes record ⟨1, 200, 255⟩ 8 ∧
          after[21]? = some 0xAA := by
  intro short long record
  have hshort : short.length < 280 := by
    rw [List.length_replicate]
    decide
  have hlong : 280 ≤ long.length := by
    rw [List.length_replicate]
    decide
  obtain ⟨hrefused, -, ⟨length, -, hleast, hwritten⟩, -⟩ :=
    write_leaves_canonical_frame .heartbeat record ⟨1, 200, 255⟩
  obtain rfl : length = 8 := hleast.unique (isLeast_keptLength (encodeRow record))
  obtain ⟨after, hwrite, hframe, -, hbehind⟩ := hwritten long hlong
  exact ⟨hshort, hrefused short hshort, hlong, after, hwrite, hframe, hbehind 21 (by decide)⟩

end VehicleLink
