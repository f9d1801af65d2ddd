import VehicleLink.Frame.Basic
import VehicleLink.Receiver

/-!
# Frame/Receiver — frames from a byte stream

A `Reception` collects the bytes of one frame at a time. Its phase says which part comes next and,
for parts of more than one byte, how many bytes are still owed. `Frame.receiver` is the receiver
with these states; when a frame is complete, it is cut from the collected bytes.

Between frames a reception keeps what it last collected, and clears it at the next marker.
-/

namespace VehicleLink

namespace Frame

/-- What a receiver is set up with: the room for one frame, and the bytes it takes as markers. -/
structure Config where
  capacity : Nat
  markers : List UInt8
deriving DecidableEq, Repr

/-- The markers of both versions. -/
def Config.bothMarkers : List UInt8 := [Version.v2.marker, Version.v1.marker]

/-- Which part of a frame comes next. -/
inductive Phase where
  | marker
  | length
  | incompat
  | compat
  | header (remaining : Nat)
  | payload (remaining : Nat)
  | checksum (remaining : Nat)
  | signature (remaining : Nat)
deriving DecidableEq, Repr

/-- A receiver's state between two bytes. -/
structure Reception where
  phase : Phase
  version : Version
  payloadLength : Nat
  received : List UInt8
deriving DecidableEq, Repr

namespace Reception

/-- The state before the first byte. -/
def fresh : Reception := ⟨.marker, .v2, 0, []⟩

/-- Gives up the frame that is being collected. -/
def reset (r : Reception) : Reception := { r with phase := .marker, received := [] }

/-- Collects a byte, or gives the frame up for want of room. -/
def append (config : Config) (r : Reception) (byte : UInt8) : Reception × Outcome :=
  if r.received.length < config.capacity then
    ({ r with received := r.received ++ [byte] }, .pending)
  else (r.reset, .failed .overrun)

/-- The version that a byte starts a frame of, if the receiver takes it as a marker. -/
def versionOf? (config : Config) (byte : UInt8) : Option Version :=
  if config.markers.contains byte then Version.ofMarker? byte else none

/-- Whether the frame that is being collected announces a signature. -/
def isSigned (r : Reception) : Bool :=
  r.version = .v2 && (Flags.ofNat (r.received.getD 2 0).toNat : Flags .incompat).isSet 0

/-- The phase after a byte, or nothing if the byte was the last of its frame. -/
def nextPhase? (r : Reception) : Option Phase :=
  match r.phase with
  | .marker => some .marker
  | .length =>
    match r.version with
    | .v2 => some .incompat
    | .v1 => some (.header (Version.v1.headerLength - 2))
  | .incompat => some .compat
  | .compat => some (.header (Version.v2.headerLength - 4))
  | .header 1 =>
    some (if r.payloadLength = 0 then .checksum checksumLength else .payload r.payloadLength)
  | .header n => some (.header (n - 1))
  | .payload 1 => some (.checksum checksumLength)
  | .payload n => some (.payload (n - 1))
  | .checksum 1 => if r.isSigned then some (.signature signatureLength) else none
  | .checksum n => some (.checksum (n - 1))
  | .signature 1 => none
  | .signature n => some (.signature (n - 1))

/-- Takes one byte. -/
def step (config : Config) (r : Reception) (byte : UInt8) : Reception × Outcome :=
  match r.phase with
  | .marker =>
    match versionOf? config byte with
    | none => (r, .pending)
    | some version =>
      append config { r with phase := .length, version := version, received := [] } byte
  | _ =>
    match append config r byte with
    | (r, .pending) =>
      let r := if r.phase = .length then { r with payloadLength := byte.toNat } else r
      match r.nextPhase? with
      | some phase => ({ r with phase := phase }, .pending)
      | none => ({ r with phase := .marker }, .complete)
    | failed => failed

end Reception

/-- The receiver of frames. -/
def receiver (config : Config) : Receiver Reception Frame where
  fresh := .fresh
  reset := Reception.reset
  step := Reception.step config
  item r := Frame.ofBytes r.received

end Frame

end VehicleLink
