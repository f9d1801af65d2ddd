import VehicleLink.Bytes.LittleEndian
import VehicleLink.Frame.Version
import VehicleLink.Message.Flags
import VehicleLink.Message.Type

/-!
# Frame/Basic — a frame, cut from its bytes

`Frame.ofBytes` cuts one frame from the start of a byte list and ignores what follows it. It fails
only on a first byte that is no marker or on bytes that end before the frame does. The checksum is
carried, not checked: checking needs the message type, since its `crcExtra` is part of the sum
(`Frame.verify`).
-/

namespace VehicleLink

/-- The fixed part of a frame after its marker. -/
structure Header where
  payloadLength : UInt8
  incompat : Flags .incompat
  compat : UInt8
  sequence : UInt8
  systemId : UInt8
  componentId : UInt8
  messageId : Nat
deriving DecidableEq

namespace Header

/-- The header at the start of the bytes after a marker, and what follows it. Version one has
neither flags nor an identifier of more than one byte. -/
def read? : (version : Version) → (bytes : List UInt8) → Option (Header × List UInt8)
  | .v2, len :: incompat :: compat :: seq :: sys :: comp :: id₀ :: id₁ :: id₂ :: rest =>
    some (⟨len, .ofNat incompat.toNat, compat, seq, sys, comp, ofLittleEndian [id₀, id₁, id₂]⟩,
      rest)
  | .v1, len :: seq :: sys :: comp :: id :: rest =>
    some (⟨len, .ofNat 0, 0, seq, sys, comp, id.toNat⟩, rest)
  | _, _ => none

end Header

/-- A frame: its header, payload, checksum and signature, and the bytes that the checksum covers. -/
structure Frame where
  version : Version
  header : Header
  payload : List UInt8
  checksum : UInt16
  signature : Option (List UInt8)
  covered : List UInt8
deriving DecidableEq

/-- Whether a signature ends the frame. -/
def Header.isSigned (header : Header) : Bool := header.incompat.isSet 0

namespace Frame

/-- The first `count` of `bytes` and the rest, if there are that many. -/
def splitAt? (count : Nat) (bytes : List UInt8) : Option (List UInt8 × List UInt8) :=
  if count ≤ bytes.length then some (bytes.take count, bytes.drop count) else none

/-- What follows the header: the payload, the checksum, and the signature if there is one. -/
def readBody? (header : Header) (bytes : List UInt8) :
    Option (List UInt8 × UInt16 × Option (List UInt8)) := do
  let (payload, rest) ← splitAt? header.payloadLength.toNat bytes
  let (checksum, rest) ← splitAt? checksumLength rest
  let signature ←
    if header.isSigned then (splitAt? signatureLength rest).map fun (signature, _) => some signature
    else some none
  return (payload, UInt16.ofNat (ofLittleEndian checksum), signature)

/-- Cuts the frame that starts `bytes`. -/
def ofBytes : (bytes : List UInt8) → Except LinkError Frame
  | [] => .error .overrun
  | marker :: bytes =>
    match Version.ofMarker? marker with
    | none => .error (.invalidMarker marker)
    | some version =>
      match Header.read? version bytes with
      | none => .error .overrun
      | some (header, rest) =>
        match readBody? header rest with
        | none => .error .overrun
        | some (payload, checksum, signature) =>
          let covered := version.headerLength - 1 + header.payloadLength.toNat
          .ok ⟨version, header, payload, checksum, signature, bytes.take covered⟩

/-- Compares the checksum with the one that the bytes and `extra` give. -/
def verifyChecksum (frame : Frame) (extra : UInt8) : Except LinkError Unit :=
  let expected := frameChecksum frame.covered extra
  if expected = frame.checksum then .ok () else .error (.checksumMismatch expected frame.checksum)

/-- Checks that the frame is of a type, and then its checksum. -/
def verify (frame : Frame) (type : MessageType) : Except LinkError Unit :=
  if frame.header.messageId = type.id then frame.verifyChecksum type.crcExtra else .error .malformed

/-- The record in a frame of a type, without a look at the checksum. -/
def record (frame : Frame) (type : MessageType) : Except LinkError type.Record :=
  if frame.header.messageId = type.id then .ok (decodeRow ⟨frame.payload⟩ type.fields)
  else .error .malformed

/-- The record in a frame of a type whose checksum is right. -/
def verifiedRecord (frame : Frame) (type : MessageType) : Except LinkError type.Record := do
  frame.verify type
  frame.record type

end Frame

end VehicleLink
