import VehicleLink.Message.Crc

/-!
# Message/Type — message types and their records

A message type is data: an identifier, a name and a list of fields, bounded so that every record of
the type fits a frame. Everything about a type is computed from it, for the types of the catalogue
and for any other.
-/

namespace VehicleLink

/-- The largest payload of a frame. -/
def maxPayloadLength : Nat := 255

/-- A kind of message. Its identifier fits three bytes and its fields fit a payload. -/
structure MessageType where
  id : Nat
  name : String
  fields : List Field
  id_lt : id < 0x1000000 := by decide
  layoutSize_le : layoutSize fields ≤ maxPayloadLength := by decide

namespace MessageType

variable (type : MessageType)

/-- The values of all fields of a message. -/
abbrev Record : Type := Row Field.Value type.fields

/-- Bytes of a record before trailing zeros are dropped. -/
def encodedLength : Nat := layoutSize type.fields

/-- The byte that stands for the type in frame checksums. -/
def crcExtra : UInt8 := VehicleLink.crcExtra type.name type.fields

/-- The record whose bytes are all zero. -/
def zero : type.Record := Row.tabulate Field.zero type.fields

end MessageType

end VehicleLink
