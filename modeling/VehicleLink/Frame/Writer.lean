import VehicleLink.Bytes.Buffer
import VehicleLink.Frame.Version
import VehicleLink.Message.Type

/-!
# Frame/Writer — records as frames

Frames are written in version two and without a signature. Trailing zeros of the payload are not
sent, except that a payload is never empty. The whole record is first written into the buffer and
then cut, so behind the frame the buffer may hold zeros of the record; further back it is left
alone.
-/

namespace VehicleLink

/-- The largest frame: a version two header, a full payload, the checksum and a signature. -/
def maxFrameLength : Nat := 280

/-- Who sends a frame, and its place among the frames of the sender. -/
structure Origin where
  systemId : UInt8
  componentId : UInt8
  sequence : UInt8
deriving DecidableEq, Repr

/-- The length of a payload without its trailing zeros, but at least one. -/
def keptLength (payload : List UInt8) : Nat := max 1 (payload.reverse.dropWhile (· = 0)).length

namespace MessageType

variable (type : MessageType)

/-- The header of a frame, marker included, for a payload of the given length. -/
def headerBytes (origin : Origin) (payloadLength : Nat) : List UInt8 :=
  [Version.v2.marker, UInt8.ofNat payloadLength, 0, 0, origin.sequence, origin.systemId,
    origin.componentId] ++ littleEndian 3 type.id

/-- Writes a record as a frame at the start of `buffer`. The answer is the length of the frame, and
the buffer as it is afterwards. -/
def write (record : type.Record) (origin : Origin) (buffer : List UInt8) :
    Except LinkError Nat × List UInt8 :=
  if buffer.length < maxFrameLength then (.error .overrun, buffer)
  else
    let headerLength := Version.v2.headerLength
    let payload := encodeRow record
    let buffer := overwrite (overwrite buffer headerLength [0]) headerLength payload
    let kept := keptLength payload
    let buffer := overwrite buffer 0 (type.headerBytes origin kept)
    let payloadEnd := headerLength + kept
    let crc := frameChecksum ((buffer.take payloadEnd).drop 1) type.crcExtra
    (.ok (payloadEnd + checksumLength),
      overwrite buffer payloadEnd (littleEndian checksumLength crc.toNat))

end MessageType

end VehicleLink
