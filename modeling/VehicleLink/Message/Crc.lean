import VehicleLink.Message.Field
import VehicleLink.Text.Utf8

/-!
# Message/Crc — the checksum of frames and of message definitions

The checksum is the reflected CRC of sixteen bits with polynomial `0x8408`. `Crc.shiftOut` is one
bit of its definition and `Crc.bitwise` the definition on bytes; frames are checked with it.
`Crc.step` is the same step without a loop over bits, by shifts of a single byte; checksums that
are extended piece by piece use it.

A message definition has a checksum of its own, folded to one byte (`crcExtra`). It ends every
frame's checksum, so that two ends with different definitions reject each other's frames.
-/

namespace VehicleLink

namespace Crc

/-- The checksum of no bytes. -/
def start : UInt16 := 0xFFFF

/-- Shifts out the lowest bit, and adds the polynomial if it was set. -/
def shiftOut (crc : UInt16) : UInt16 :=
  if crc &&& 1 = 1 then (crc >>> 1) ^^^ 0x8408 else crc >>> 1

/-- Adds a byte to the low half and shifts it out. -/
def bitwiseStep (crc : UInt16) (byte : UInt8) : UInt16 :=
  Nat.repeat shiftOut 8 (crc ^^^ byte.toUInt16)

/-- The checksum of `bytes` after `crc`, bit by bit. -/
def bitwise (crc : UInt16) (bytes : List UInt8) : UInt16 := bytes.foldl bitwiseStep crc

/-- Adds a byte, by shifts of the byte and the low half together. -/
def step (crc : UInt16) (byte : UInt8) : UInt16 :=
  let low := byte ^^^ crc.toUInt8
  let mixed := (low ^^^ (low <<< 4)).toUInt16
  (crc >>> 8) ^^^ (mixed <<< 8) ^^^ (mixed <<< 3) ^^^ (mixed >>> 4)

/-- The checksum of `bytes` after `crc`. -/
def accumulate (crc : UInt16) (bytes : List UInt8) : UInt16 := bytes.foldl step crc

theorem accumulate_append (crc : UInt16) (a b : List UInt8) :
    accumulate crc (a ++ b) = accumulate (accumulate crc a) b := List.foldl_append

end Crc

/-- The checksum of a frame: of everything between its marker and its checksum, and of the byte
that stands for the message definition. -/
def frameChecksum (covered : List UInt8) (extra : UInt8) : UInt16 :=
  Crc.bitwise Crc.start (covered ++ [extra])

/-- What a field adds to the checksum of a definition: its type, its name, and its length if it is
a series. -/
def Field.signature (field : Field) : List UInt8 :=
  utf8 field.primitive.typeName ++ [0x20] ++ utf8 field.name ++ [0x20] ++
    (if field.arrayLength = 0 then [] else [UInt8.ofNat field.arrayLength])

/-- The byte that stands for a message definition. -/
def crcExtra (name : String) (fields : List Field) : UInt8 :=
  let crc := Crc.accumulate Crc.start (utf8 name ++ [0x20] ++ fields.flatMap Field.signature)
  crc.toUInt8 ^^^ (crc >>> 8).toUInt8

end VehicleLink
