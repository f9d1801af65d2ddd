import VehicleLink.Frame.Writer
import VehicleLink.Proofs.Bytes.Buffer
import VehicleLink.Proofs.Frame.Layout
import VehicleLink.Proofs.Message.Layout

/-!
# Proofs/Frame/Canonical — the one frame that a record is sent as

The writer works in place, field after field, and fills in the header and the checksum last.  What
comes out is a concatenation (`frameBytes`): the header, the payload without its trailing zeros, and
the checksum of both.  `write_eq` says so, and where the rest of the buffer goes; `cut_frameBytes`
takes the frame apart again.
-/

namespace VehicleLink

/-! ## Trailing zeros -/

theorem eq_append_zeros (payload : List UInt8) :
    ∃ zeros, payload = (payload.reverse.dropWhile (· = 0)).reverse ++ List.replicate zeros 0 := by
  have hzero : ∀ byte ∈ (payload.reverse.takeWhile (· = 0)).reverse, byte = 0 := by
    intro byte hbyte
    have hall := List.all_eq_true.mp List.all_takeWhile byte (List.mem_reverse.mp hbyte)
    exact of_decide_eq_true hall
  refine ⟨(payload.reverse.takeWhile (· = 0)).reverse.length, ?_⟩
  rw [← List.eq_replicate_of_mem hzero, ← List.reverse_append, List.takeWhile_append_dropWhile,
    List.reverse_reverse]

/-- A payload that is cut behind its last byte that is not zero, or later, loses only zeros. -/
theorem take_append_zeros {payload : List UInt8} {length : Nat}
    (h : (payload.reverse.dropWhile (· = 0)).length ≤ length) :
    payload.take length ++ List.replicate (payload.length - length) 0 = payload := by
  obtain ⟨zeros, hpayload⟩ := eq_append_zeros payload
  rw [← List.length_reverse] at h
  generalize (payload.reverse.dropWhile (· = 0)).reverse = front at h hpayload
  rw [hpayload, List.take_append, List.take_of_length_le h, List.take_replicate, List.append_assoc,
    List.replicate_append_replicate, List.length_append, List.length_replicate]
  congr 2
  omega

theorem length_dropWhile_reverse_le (payload : List UInt8) :
    (payload.reverse.dropWhile (· = 0)).length ≤ payload.length := by
  have hle :=
    (List.dropWhile_suffix (l := payload.reverse) (fun byte => decide (byte = 0))).length_le
  rwa [List.length_reverse] at hle

theorem keptLength_le (payload : List UInt8) : keptLength payload ≤ max 1 payload.length :=
  Nat.max_le.mpr ⟨Nat.le_max_left .., Nat.le_trans (length_dropWhile_reverse_le payload)
    (Nat.le_max_right ..)⟩

/-- **What is kept of a payload, filled up with zeros, is the payload**, the byte of an empty one
included. -/
theorem take_keptLength_append_zeros (payload : List UInt8) :
    ∃ zeros, (payload.rightpad 1 0).take (keptLength payload) ++ List.replicate zeros 0
      = payload.rightpad 1 0 := by
  refine ⟨_, take_append_zeros ?_⟩
  cases payload with
  | nil => exact Nat.zero_le _
  | cons byte payload =>
    rw [List.rightpad, List.length_cons, Nat.sub_eq_zero_of_le (Nat.succ_pos _),
      List.replicate_zero, List.append_nil]
    exact Nat.le_max_right ..

/-! ## The frame -/

namespace MessageType

variable (type : MessageType) (record : type.Record) (origin : Origin)

/-- The payload that is sent for a record: its bytes without trailing zeros, but at least one. -/
def sentPayload : List UInt8 :=
  ((encodeRow record).rightpad 1 0).take (keptLength (encodeRow record))

/-- What the checksum of a record's frame covers. -/
def coveredBytes : List UInt8 :=
  (type.headerBytes origin (type.sentPayload record).length).tail ++ type.sentPayload record

/-- The frame that a record is sent as. -/
def frameBytes : List UInt8 :=
  type.headerBytes origin (type.sentPayload record).length ++ type.sentPayload record
    ++ littleEndian checksumLength
        (frameChecksum (type.coveredBytes record origin) type.crcExtra).toNat

theorem length_sentPayload : (type.sentPayload record).length = keptLength (encodeRow record) := by
  have hle := keptLength_le (encodeRow record)
  rw [sentPayload, List.length_take, List.rightpad, List.length_append, List.length_replicate]
  omega

theorem length_headerBytes (payloadLength : Nat) :
    (type.headerBytes origin payloadLength).length = Version.v2.headerLength := rfl

/-- The payload fits the byte that announces its length. -/
theorem length_sentPayload_le : (type.sentPayload record).length ≤ maxPayloadLength := by
  have hle := keptLength_le (encodeRow record)
  have hlayout := type.layoutSize_le
  rw [length_encodeRow] at hle
  rw [length_sentPayload]
  exact Nat.le_trans hle (Nat.max_le.mpr ⟨by decide, hlayout⟩)

theorem length_frameBytes :
    (type.frameBytes record origin).length
      = Version.v2.headerLength + keptLength (encodeRow record) + checksumLength := by
  rw [frameBytes, List.length_append, List.length_append, length_headerBytes, length_sentPayload,
    length_littleEndian]

/-- **The payload that is sent reads as the record.** -/
theorem decodeRow_sentPayload : decodeRow ⟨type.sentPayload record⟩ type.fields = record := by
  obtain ⟨zeros, hpad⟩ := take_keptLength_append_zeros (encodeRow record)
  rw [← decodeRow_append_zeros _ zeros, sentPayload, hpad]
  exact decodeRow_encodeRow_append record _

/-! ## The writer -/

/-- The zero written before a payload stays if the payload has no bytes. -/
theorem overwrite_payload {buffer : List UInt8} {start : Nat} (h : start ≤ buffer.length)
    (payload : List UInt8) :
    overwrite (overwrite buffer start [0]) start payload
      = overwrite buffer start (payload.rightpad 1 0) := by
  cases payload with
  | nil =>
    rw [overwrite, take_start_overwrite h, List.length_nil, Nat.add_zero, drop_start_overwrite h,
      List.append_nil, ← List.append_assoc]
    rfl
  | cons byte payload =>
    have hle : [(0 : UInt8)].length ≤ (byte :: payload).length := Nat.succ_pos _
    rw [overwrite_overwrite_of_le h hle, List.rightpad, List.length_cons,
      Nat.sub_eq_zero_of_le (Nat.succ_pos _), List.replicate_zero, List.append_nil]

/-- **The writer writes the frame at the start of the buffer.**  Behind it the buffer holds what is
left of the record's bytes, and is else as it was. -/
theorem write_eq {buffer : List UInt8} (h : maxFrameLength ≤ buffer.length) :
    type.write record origin buffer
      = (.ok (type.frameBytes record origin).length,
          overwrite (overwrite buffer Version.v2.headerLength ((encodeRow record).rightpad 1 0)) 0
            (type.frameBytes record origin)) := by
  have hroom : Version.v2.headerLength ≤ buffer.length := Nat.le_trans (by decide) h
  have hlength := type.length_sentPayload record
  have hkept : keptLength (encodeRow record) ≤ ((encodeRow record).rightpad 1 0).length := by
    rw [List.length_rightpad]
    exact keptLength_le _
  -- The header comes out in front of the payload, which is cut where the checksum goes.
  have hfront : (overwrite (overwrite buffer Version.v2.headerLength
        ((encodeRow record).rightpad 1 0)) 0
        (type.headerBytes origin (keptLength (encodeRow record)))).take
          (Version.v2.headerLength + keptLength (encodeRow record))
      = type.headerBytes origin (type.sentPayload record).length ++ type.sentPayload record := by
    rw [overwrite_zero, length_headerBytes, drop_start_overwrite hroom, hlength,
      ← type.length_headerBytes origin (keptLength (encodeRow record)), List.take_length_add_append,
      List.take_append_of_le_length hkept, sentPayload]
  have hbehind : (overwrite (overwrite buffer Version.v2.headerLength
        ((encodeRow record).rightpad 1 0)) 0
        (type.headerBytes origin (keptLength (encodeRow record)))).drop
          (Version.v2.headerLength + keptLength (encodeRow record) + checksumLength)
      = (overwrite buffer Version.v2.headerLength ((encodeRow record).rightpad 1 0)).drop
          (type.frameBytes record origin).length := by
    rw [drop_overwrite (Nat.zero_le _) (by rw [length_headerBytes]; omega), length_frameBytes]
  rw [write, if_neg (Nat.not_lt.mpr h)]
  simp only [overwrite_payload hroom, hfront]
  rw [length_frameBytes, overwrite_zero _ (type.frameBytes record origin)]
  refine Prod.ext rfl ?_
  rw [overwrite, hfront, length_littleEndian, hbehind]
  rfl

/-! ## Taking the frame apart -/

/-- The frame of a record, in its parts. -/
def frame : Frame where
  version := .v2
  header :=
    { payloadLength := UInt8.ofNat (type.sentPayload record).length, incompat := .ofNat 0,
      compat := 0, sequence := origin.sequence, systemId := origin.systemId,
      componentId := origin.componentId, messageId := type.id }
  payload := type.sentPayload record
  checksum := frameChecksum (type.coveredBytes record origin) type.crcExtra
  signature := none
  covered := type.coveredBytes record origin

theorem payloadEnd_frameBytes (rest : List UInt8) :
    Frame.payloadEnd .v2 (type.frameBytes record origin ++ rest)
      = Version.v2.headerLength + (type.sentPayload record).length := by
  have hfits : (type.sentPayload record).length < 256 :=
    Nat.lt_succ_of_le (type.length_sentPayload_le record)
  change _ + (UInt8.ofNat (type.sentPayload record).length).toNat = _
  rw [UInt8.toNat_ofNat_of_lt' hfits]

theorem totalLength_frameBytes (rest : List UInt8) :
    Frame.totalLength .v2 (type.frameBytes record origin ++ rest)
      = (type.frameBytes record origin).length := by
  have hunsigned : Frame.endsSigned .v2 (type.frameBytes record origin ++ rest) = false := rfl
  rw [Frame.totalLength, payloadEnd_frameBytes, hunsigned, length_frameBytes, length_sentPayload]
  rfl

theorem take_frameBytes :
    (type.frameBytes record origin).take
        (Version.v2.headerLength + (type.sentPayload record).length)
      = type.headerBytes origin (type.sentPayload record).length ++ type.sentPayload record :=
  List.take_left' List.length_append

theorem drop_frameBytes :
    (type.frameBytes record origin).drop
        (Version.v2.headerLength + (type.sentPayload record).length)
      = littleEndian checksumLength
          (frameChecksum (type.coveredBytes record origin) type.crcExtra).toNat :=
  List.drop_left' List.length_append

/-- **The parts of the frame are found at their places.** -/
theorem cut_frameBytes :
    Frame.cut .v2 (type.frameBytes record origin) = type.frame record origin := by
  have hend := type.payloadEnd_frameBytes record origin []
  rw [List.append_nil] at hend
  have hid : (UInt8.ofNat type.id).toNat + 256 * (UInt8.ofNat (type.id / 256)).toNat
      + 65536 * (UInt8.ofNat (type.id / 256 / 256)).toNat = type.id := by
    have hlt := type.id_lt
    simp only [UInt8.toNat_ofNat']
    omega
  have hheader : Frame.cutHeader .v2 (type.frameBytes record origin)
      = (type.frame record origin).header := by
    rw [frame, ← hid]
    rfl
  have hchecksum (sum : UInt16) :
      UInt16.ofNat (ofLittleEndian ((littleEndian checksumLength sum.toNat).take checksumLength))
        = sum := by
    have hlt : sum.toNat < Nat.pow 256 checksumLength := sum.toNat_lt
    rw [List.take_of_length_le (Nat.le_of_eq (length_littleEndian _ _)),
      ofLittleEndian_littleEndian,
      Nat.mod_eq_of_lt hlt, UInt16.ofNat_toNat]
  rw [Frame.cut, hheader, hend, take_frameBytes, drop_frameBytes, hchecksum,
    List.drop_left' (type.length_headerBytes origin _)]
  rfl

/-- **The frame holds the record**, and its checksum is right. -/
theorem verifiedRecord_frame : (type.frame record origin).verifiedRecord type = .ok record := by
  have hid : (type.frame record origin).header.messageId = type.id := rfl
  have hchecksum : frameChecksum (type.frame record origin).covered type.crcExtra
      = (type.frame record origin).checksum := by
    rw [frame]
  have hverify : (type.frame record origin).verify type = .ok () := by
    simp only [Frame.verify, hid, if_true, Frame.verifyChecksum, hchecksum]
  have hread : decodeRow ⟨(type.frame record origin).payload⟩ type.fields = record :=
    type.decodeRow_sentPayload record
  have hrecord : (type.frame record origin).record type = .ok record := by
    rw [Frame.record, if_pos hid, hread]
  rw [Frame.verifiedRecord, hverify, hrecord]
  rfl

end MessageType

end VehicleLink
