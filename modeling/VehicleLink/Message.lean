import VehicleLink.Frame.Basic
import VehicleLink.Frame.Writer
import VehicleLink.Message.Catalogue

/-!
# Message — messages of the catalogue

A `Message` is a kind and a record of its type. Frames are decoded by looking their identifier up
(`Message.ofFrame`, `Message.ofVerifiedFrame`).
-/

namespace VehicleLink

/-- A message of one of the catalogue's types. -/
structure Message where
  kind : MessageKind
  record : kind.type.Record

namespace Message

/-- The byte that stands for the type with an identifier. -/
def crcExtra? (id : Nat) : Option UInt8 := (MessageKind.ofId? id).map fun kind => kind.type.crcExtra

/-- The message in a frame, without a look at the checksum. -/
def ofFrame (frame : Frame) : Except LinkError Message :=
  match MessageKind.ofId? frame.header.messageId with
  | none => .error .malformed
  | some kind => (frame.record kind.type).map (Message.mk kind)

/-- The message in a frame whose checksum is right. -/
def ofVerifiedFrame (frame : Frame) : Except LinkError Message :=
  match MessageKind.ofId? frame.header.messageId with
  | none => .error .malformed
  | some kind => (frame.verifiedRecord kind.type).map (Message.mk kind)

/-- The identifier of a message's type. -/
def id (message : Message) : Nat := message.kind.type.id

/-- The name of a message's type. -/
def name (message : Message) : String := message.kind.type.name

/-- Writes a message as a frame at the start of `buffer`, see `MessageType.write`. -/
def write (message : Message) (origin : Origin) (buffer : List UInt8) :
    Except LinkError Nat × List UInt8 :=
  message.kind.type.write message.record origin buffer

end Message

end VehicleLink
