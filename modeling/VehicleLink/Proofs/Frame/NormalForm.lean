import VehicleLink.Message.Catalogue
import VehicleLink.Proofs.Frame.Canonical
import VehicleLink.Proofs.Message.Extension

/-!
# Proofs/Frame/NormalForm — a record is a payload up to trailing zeros

A frame of the right type always holds a record, whatever its payload.  The record remembers the
payload at the length of the layout and nothing else, and writing it again sends that payload without
its trailing zeros (`record_extends_payload`).
-/

namespace VehicleLink

/-! ## Trailing zeros -/

/-- A payload without its trailing zeros, but with at least one byte. -/
def trimmed (payload : List UInt8) : List UInt8 :=
  if payload.rdropWhile (· = 0) = [] then [0] else payload.rdropWhile (· = 0)

namespace MessageType

variable (type : MessageType) (record : type.Record) (origin : Origin)

/-- **The payload that is sent is that of the record, trimmed.** -/
theorem sentPayload_eq_trimmed : type.sentPayload record = trimmed (encodeRow record) := by
  obtain ⟨zeros, hpayload⟩ := eq_append_zeros (encodeRow record)
  have hkept : keptLength (encodeRow record)
      = max 1 ((encodeRow record).rdropWhile (· = 0)).length := by
    rw [keptLength, List.rdropWhile, List.length_reverse]
  rw [sentPayload, hkept, trimmed]
  change encodeRow record = (encodeRow record).rdropWhile (· = 0) ++ _ at hpayload
  generalize (encodeRow record).rdropWhile (· = 0) = kept at hpayload
  rw [hpayload]
  cases kept with
  | nil =>
    -- Nothing but zeros, or nothing at all: one zero is sent.
    rw [if_pos rfl]
    cases zeros <;> rfl
  | cons byte kept =>
    rw [if_neg (List.cons_ne_nil _ _), List.rightpad, List.length_append, List.length_cons,
      Nat.sub_eq_zero_of_le (by omega), List.replicate_zero, List.append_nil,
      Nat.max_eq_right (Nat.succ_pos _)]
    exact List.take_left' List.length_cons

theorem ofBytes_frameBytes :
    Frame.ofBytes (type.frameBytes record origin) = .ok (type.frame record origin) := by
  have htotal := type.totalLength_frameBytes record origin []
  rw [List.append_nil] at htotal
  rw [Frame.ofBytes_eq_cut .v2 rfl (Nat.le_of_eq htotal), cut_frameBytes]

/-- The bytes written are those of the frame. -/
theorem take_write {buffer : List UInt8} (h : maxFrameLength ≤ buffer.length) :
    ∃ length, (type.write record origin buffer).1 = .ok length ∧
      (type.write record origin buffer).2.take length = type.frameBytes record origin := by
  rw [type.write_eq record origin h]
  exact ⟨_, rfl, take_overwrite_zero ..⟩

end MessageType

/-! ## Reading and writing again -/

namespace Frame

/-- **Reading a frame of a type gives the payload at the length of the layout.**

Every such frame holds a record.  Its bytes are the payload, cut or filled up with zeros, and writing
it sends those bytes trimmed.  Two frames hold the same record if and only if their payloads agree at
that length.  While a payload is read, the reader is empty once the fields read are as long as the
payload. -/
theorem record_extends_payload (type : MessageType) :
    (∀ frame : Frame, frame.header.messageId = type.id → ∃ record,
      frame.record type = .ok record ∧
        encodeRow record = extended frame.payload type.encodedLength ∧
        ∀ origin buffer, maxFrameLength ≤ buffer.length → ∃ length sent,
          (type.write record origin buffer).1 = .ok length ∧
            ofBytes ((type.write record origin buffer).2.take length) = .ok sent ∧
            sent.payload = trimmed (extended frame.payload type.encodedLength)) ∧
    (∀ frame frame' : Frame,
      frame.header.messageId = type.id → frame'.header.messageId = type.id →
        (frame.record type = frame'.record type
          ↔ extended frame.payload type.encodedLength
            = extended frame'.payload type.encodedLength)) ∧
    ∀ payload : List UInt8,
      (PayloadReader.mk payload).isEmpty :: drained ⟨payload⟩ type.fields
        = type.fields.inits.map fun read => decide (payload.length ≤ layoutSize read) := by
  have hread : ∀ frame : Frame, frame.header.messageId = type.id →
      frame.record type = .ok (decodeRow ⟨frame.payload⟩ type.fields) :=
    fun frame hid => if_pos hid
  refine ⟨fun frame hid => ⟨_, hread frame hid, encodeRow_decodeRow _ _, ?_⟩, ?_,
    fun payload => isEmpty_cons_drained payload type.fields⟩
  · intro origin buffer hbuffer
    obtain ⟨length, hlength, htake⟩ := type.take_write _ origin hbuffer
    refine ⟨length, _, hlength, htake ▸ type.ofBytes_frameBytes _ origin, ?_⟩
    rw [MessageType.encodedLength, ← encodeRow_decodeRow]
    exact type.sentPayload_eq_trimmed _
  · intro frame frame' hid hid'
    rw [hread frame hid, hread frame' hid', Except.ok.injEq]
    exact decodeRow_eq_iff _ _ _

/-- A heartbeat in version one with a payload of any length. -/
def heartbeatFrame (payload : List UInt8) : Frame :=
  cut .v1 ([0xFE, UInt8.ofNat payload.length, 0, 1, 1, 0] ++ payload ++ [0, 0])

/-- A heartbeat whose payload breaks off in its first field, and one that sends two zeros more. -/
theorem record_extends_payload_heartbeat :
    (heartbeatFrame [0xFD, 0, 0x51]).header.messageId = MessageType.heartbeat.id ∧
      (heartbeatFrame [0xFD, 0, 0x51, 0, 0]).header.messageId = MessageType.heartbeat.id ∧
      maxFrameLength ≤ (List.replicate 280 (0xAA : UInt8)).length ∧
      (∃ record, (heartbeatFrame [0xFD, 0, 0x51]).record .heartbeat = .ok record ∧
        encodeRow record = [0xFD, 0, 0x51, 0, 0, 0, 0, 0, 0] ∧
        ∃ length sent,
          (MessageType.heartbeat.write record ⟨1, 1, 0⟩ (List.replicate 280 0xAA)).1 = .ok length ∧
            ofBytes ((MessageType.heartbeat.write record ⟨1, 1, 0⟩
              (List.replicate 280 0xAA)).2.take length) = .ok sent ∧
            sent.payload = [0xFD, 0, 0x51]) ∧
      (heartbeatFrame [0xFD, 0, 0x51]).record .heartbeat
        = (heartbeatFrame [0xFD, 0, 0x51, 0, 0]).record .heartbeat := by
  have hid : (heartbeatFrame [0xFD, 0, 0x51]).header.messageId = MessageType.heartbeat.id := rfl
  have hid' : (heartbeatFrame [0xFD, 0, 0x51, 0, 0]).header.messageId
      = MessageType.heartbeat.id := rfl
  have hroom : maxFrameLength ≤ (List.replicate 280 (0xAA : UInt8)).length :=
    Nat.le_of_eq List.length_replicate.symm
  obtain ⟨hholds, hsame, -⟩ := record_extends_payload .heartbeat
  obtain ⟨record, hrecord, hbytes, hsent⟩ := hholds _ hid
  exact ⟨hid, hid', hroom, ⟨record, hrecord, hbytes, hsent ⟨1, 1, 0⟩ _ hroom⟩,
    (hsame _ _ hid hid').mpr rfl⟩

end Frame

end VehicleLink
