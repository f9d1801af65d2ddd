import VehicleLink.Proofs.Frame.Corruption
import VehicleLink.Proofs.Frame.Link
import VehicleLink.Proofs.Frame.NormalForm

/-!
# Proofs/Message/Dispatch — messages found by the identifier of their frame

A frame is read in two ways: by the identifier it carries, over all types of the catalogue
(`Message.ofFrame`, `Message.ofVerifiedFrame`), or as a type that the caller expects
(`Frame.record`, `Frame.verifiedRecord`).  The two ways agree (`dispatch_agrees`): an identifier
belongs to at most one kind (`MessageKind.ofId?_eq_some_iff`), both look at the identifier before
the checksum, and both take the checksum's last byte from the same type.
-/

namespace VehicleLink

/-! ## Identifiers -/

/-- **An identifier finds the kind that has it.** -/
theorem MessageKind.ofId?_eq_some_iff {id : Nat} {kind : MessageKind} :
    ofId? id = some kind ↔ kind.type.id = id :=
  ⟨id_of_ofId?, fun h => h ▸ kind.ofId?_id⟩

theorem Message.crcExtra?_eq_none_iff {id : Nat} :
    crcExtra? id = none ↔ MessageKind.ofId? id = none := Option.map_eq_none_iff

theorem Message.crcExtra?_of_id {id : Nat} {kind : MessageKind} (h : kind.type.id = id) :
    crcExtra? id = some kind.type.crcExtra := by
  rw [crcExtra?, MessageKind.ofId?_eq_some_iff.mpr h]
  rfl

/-! ## A type that is expected -/

namespace Frame

variable {frame : Frame} {type : MessageType}

theorem verifyChecksum_eq_ok_or_mismatches (frame : Frame) (extra : UInt8) :
    frame.verifyChecksum extra = .ok () ∨ frame.Mismatches extra := by
  by_cases h : frameChecksum frame.covered extra = frame.checksum
  · exact .inl (verifyChecksum_eq_ok_iff.mpr h)
  · exact .inr (mismatches_of_ne h)

theorem record_of_id (h : type.id = frame.header.messageId) :
    frame.record type = .ok (decodeRow ⟨frame.payload⟩ type.fields) := if_pos h.symm

/-- Another identifier is refused before the checksum is looked at. -/
theorem verifiedRecord_of_other (h : type.id ≠ frame.header.messageId) :
    frame.verifiedRecord type = .error .malformed := by
  rw [verifiedRecord, verify, if_neg (Ne.symm h)]
  rfl

theorem verifiedRecord_of_error (h : type.id = frame.header.messageId) {error : LinkError}
    (herror : frame.verifyChecksum type.crcExtra = .error error) :
    frame.verifiedRecord type = .error error := by
  rw [verifiedRecord, verify, if_pos h.symm, herror]
  rfl

theorem verifiedRecord_of_ok (h : type.id = frame.header.messageId)
    (hok : frame.verifyChecksum type.crcExtra = .ok ()) :
    frame.verifiedRecord type = frame.record type := by
  rw [verifiedRecord, verify, if_pos h.symm, hok]
  rfl

end Frame

/-! ## The type that the identifier names -/

namespace Message

variable {frame : Frame}

theorem ofFrame_of_none (h : crcExtra? frame.header.messageId = none) :
    ofFrame frame = .error .malformed := by
  rw [ofFrame, crcExtra?_eq_none_iff.mp h]

theorem ofVerifiedFrame_of_none (h : crcExtra? frame.header.messageId = none) :
    ofVerifiedFrame frame = .error .malformed := by
  rw [ofVerifiedFrame, crcExtra?_eq_none_iff.mp h]

section Known

variable {kind : MessageKind} (h : kind.type.id = frame.header.messageId)

include h

/-- The message in a frame that the catalogue knows, whatever its payload. -/
theorem ofFrame_of_id : ofFrame frame = .ok ⟨kind, decodeRow ⟨frame.payload⟩ kind.type.fields⟩ := by
  rw [ofFrame, MessageKind.ofId?_eq_some_iff.mpr h]
  simp only [Frame.record_of_id h]
  rfl

/-- Finding the type by its identifier changes nothing for a caller that expects it. -/
theorem ofVerifiedFrame_of_id :
    ofVerifiedFrame frame = (frame.verifiedRecord kind.type).map (mk kind) := by
  rw [ofVerifiedFrame, MessageKind.ofId?_eq_some_iff.mpr h]

theorem ofVerifiedFrame_of_ok (hok : frame.verifyChecksum kind.type.crcExtra = .ok ()) :
    ofVerifiedFrame frame = ofFrame frame := by
  rw [ofVerifiedFrame_of_id h, Frame.verifiedRecord_of_ok h hok, Frame.record_of_id h,
    ofFrame_of_id h]
  rfl

theorem ofVerifiedFrame_of_error {error : LinkError}
    (herror : frame.verifyChecksum kind.type.crcExtra = .error error) :
    ofVerifiedFrame frame = .error error := by
  rw [ofVerifiedFrame_of_id h, Frame.verifiedRecord_of_error h herror]
  rfl

end Known

/-- The frame of a message holds that message, with or without a look at the checksum. -/
theorem ofFrame_frame (message : Message) (origin : Origin) :
    ofFrame (message.kind.type.frame message.record origin) = .ok message := by
  have hid : message.kind.type.id
      = (message.kind.type.frame message.record origin).header.messageId := rfl
  have hrecord := message.kind.type.decodeRow_sentPayload message.record
  rw [ofFrame_of_id hid]
  exact congrArg (fun record => Except.ok (mk message.kind record)) hrecord

theorem take_write (message : Message) (origin : Origin) {buffer : List UInt8}
    (h : maxFrameLength ≤ buffer.length) :
    ∃ length, (message.write origin buffer).1 = .ok length ∧
      Frame.ofBytes ((message.write origin buffer).2.take length)
        = .ok (message.kind.type.frame message.record origin) := by
  obtain ⟨length, hlength, htake⟩ := message.kind.type.take_write message.record origin h
  refine ⟨length, hlength, ?_⟩
  rw [write, htake, message.kind.type.ofBytes_frameBytes]

end Message

/-! ## Both ways agree -/

/-- **Reading a frame by its identifier and as an expected type agree.**

An identifier that stands for no checksum byte cannot be read at all, whatever the checksum.  Any
other is read for every payload, as a message with that identifier; with a look at the checksum it
is refused exactly when the checksum does not pass for its own byte.  A caller that expects a type,
of the catalogue or not, is refused another identifier first and a wrong checksum second; one that
expects a type of the catalogue else gets the record of the message that the identifier finds.  What
is written for a message is read as that message. -/
theorem dispatch_agrees (frame : Frame) :
    (Message.crcExtra? frame.header.messageId = none
      ↔ ∃ error, Message.ofFrame frame = .error error) ∧
    (Message.crcExtra? frame.header.messageId = none →
      Message.ofFrame frame = .error .malformed ∧
        Message.ofVerifiedFrame frame = .error .malformed) ∧
    (∀ extra, Message.crcExtra? frame.header.messageId = some extra →
      (∃ message, Message.ofFrame frame = .ok message ∧ message.id = frame.header.messageId) ∧
        (frame.verifyChecksum extra ≠ .ok () →
          Message.ofVerifiedFrame frame
            = .error (.checksumMismatch (frameChecksum frame.covered extra) frame.checksum)) ∧
        (frame.verifyChecksum extra = .ok () →
          Message.ofVerifiedFrame frame = Message.ofFrame frame)) ∧
    (∀ type : MessageType,
      (type.id ≠ frame.header.messageId → frame.verifiedRecord type = .error .malformed) ∧
      (type.id = frame.header.messageId →
        ∀ error, frame.verifyChecksum type.crcExtra = .error error →
          frame.verifiedRecord type = .error error)) ∧
    (∀ kind : MessageKind, kind.type.id = frame.header.messageId →
      Message.crcExtra? frame.header.messageId = some kind.type.crcExtra ∧
        (frame.verifyChecksum kind.type.crcExtra = .ok () → ∃ record,
          frame.verifiedRecord kind.type = .ok record ∧
            Message.ofFrame frame = .ok ⟨kind, record⟩)) ∧
    ∀ (message : Message) (origin : Origin) (buffer : List UInt8),
      maxFrameLength ≤ buffer.length → ∃ length sent,
        (message.write origin buffer).1 = .ok length ∧
          Frame.ofBytes ((message.write origin buffer).2.take length) = .ok sent ∧
          Message.ofFrame sent = .ok message ∧ Message.ofVerifiedFrame sent = .ok message := by
  refine ⟨⟨fun h => ⟨_, Message.ofFrame_of_none h⟩, ?_⟩,
    fun h => ⟨Message.ofFrame_of_none h, Message.ofVerifiedFrame_of_none h⟩, ?_,
    fun type => ⟨Frame.verifiedRecord_of_other, fun hid error => Frame.verifiedRecord_of_error hid⟩,
    ?_, ?_⟩
  · rintro ⟨error, herror⟩
    rw [Message.crcExtra?_eq_none_iff, Option.eq_none_iff_forall_ne_some]
    intro kind hkind
    rw [Message.ofFrame_of_id (MessageKind.id_of_ofId? hkind)] at herror
    cases herror
  · intro extra hextra
    obtain ⟨kind, hkind, rfl⟩ := Option.map_eq_some_iff.mp hextra
    have hid := MessageKind.id_of_ofId? hkind
    refine ⟨⟨_, Message.ofFrame_of_id hid, hid⟩, fun hwrong => ?_,
      Message.ofVerifiedFrame_of_ok hid⟩
    have hmismatch := (frame.verifyChecksum_eq_ok_or_mismatches _).resolve_left hwrong
    exact Message.ofVerifiedFrame_of_error hid hmismatch
  · intro kind hid
    refine ⟨Message.crcExtra?_of_id hid, fun hok => ⟨_, ?_, Message.ofFrame_of_id hid⟩⟩
    rw [Frame.verifiedRecord_of_ok hid hok, Frame.record_of_id hid]
  · intro message origin buffer hbuffer
    obtain ⟨length, hlength, hsent⟩ := message.take_write origin hbuffer
    exact ⟨length, _, hlength, hsent, message.ofFrame_frame origin,
      message.ofVerifiedFrame_frame origin⟩

/-- A heartbeat, one with a bit turned in its payload, and a frame of a type that nobody knows. -/
theorem dispatch_agrees_heartbeat :
    let intact := Frame.cut .v2 Frame.heartbeatBytes
    let damaged := Frame.cut .v2 (Frame.heartbeatBytes.set 12 8)
    let unknown := Frame.cut .v2 (Frame.heartbeatBytes.set 7 200)
    (intact.verifyChecksum 50 = .ok () ∧ ∃ record,
      intact.verifiedRecord .heartbeat = .ok record ∧
        Message.ofFrame intact = .ok ⟨.heartbeat, record⟩) ∧
    (Message.crcExtra? damaged.header.messageId = some 50 ∧ damaged.verifyChecksum 50 ≠ .ok () ∧
      Message.ofVerifiedFrame damaged
        = .error (.checksumMismatch (frameChecksum damaged.covered 50) damaged.checksum)) ∧
    (Message.crcExtra? unknown.header.messageId = none ∧
      Message.ofVerifiedFrame unknown = .error .malformed) := by
  intro intact damaged unknown
  have hintact : intact.verifyChecksum MessageKind.heartbeat.type.crcExtra = .ok () :=
    Frame.verifyChecksum_eq_ok_iff.mpr (by decide +kernel)
  have hextra : MessageKind.heartbeat.type.crcExtra = 50 := by decide +kernel
  have hdamaged : Message.crcExtra? damaged.header.messageId = some 50 :=
    hextra ▸ Message.crcExtra?_of_id rfl
  have hwrong : damaged.verifyChecksum 50 ≠ .ok () :=
    mt Frame.verifyChecksum_eq_ok_iff.mp (by decide +kernel)
  have hunknown : Message.crcExtra? unknown.header.messageId = none :=
    Message.crcExtra?_eq_none_iff.mpr (by decide +kernel)
  obtain ⟨-, -, -, -, hexpected, -⟩ := dispatch_agrees intact
  obtain ⟨-, -, hknown, -⟩ := dispatch_agrees damaged
  obtain ⟨-, hrefused, -⟩ := dispatch_agrees unknown
  exact ⟨⟨hextra ▸ hintact, (hexpected .heartbeat rfl).2 hintact⟩,
    ⟨hdamaged, hwrong, (hknown 50 hdamaged).2.1 hwrong⟩, hunknown, (hrefused hunknown).2⟩

end VehicleLink
