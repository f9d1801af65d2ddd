import VehicleLink.Receiver
import VehicleLink.Sentence.Raw

/-!
# Sentence/Receiver — sentences from a byte stream

A `Reception` collects the body of one sentence at a time: the bytes between a start character and
the star. While it does, it keeps the checksum of the body and the places of its fields.
`Sentence.receiver` is the receiver with these states; the text is cut only once a sentence is
complete (`Reception.sentence`).

Between sentences a reception keeps what it last collected, and clears it at the next start
character.
-/

namespace VehicleLink

namespace Sentence

/-- What a receiver is set up with: the room for a body, and the bytes that start a sentence. -/
structure Config where
  capacity : Nat
  starts : List UInt8
deriving DecidableEq, Repr

/-- The usual start characters, for plain and for encapsulated sentences. -/
def Config.usualStarts : List UInt8 := [0x24, 0x21]

/-- Which part of a sentence comes next. -/
inductive Phase where
  | start
  | fields
  | firstDigit
  | secondDigit
  | carriageReturn
  | lineFeed
deriving DecidableEq, Repr

/-- A receiver's state between two bytes. Places are counted from the start of the body. -/
structure Reception where
  phase : Phase
  body : List UInt8
  checksum : UInt8
  digits : UInt8 × UInt8
  /-- Where the header ends, once it has. -/
  headerEnd : Option Nat
  /-- Where the field that is being collected starts. -/
  fieldStart : Nat
  /-- Where the fields that are complete start and end. -/
  ranges : List (Nat × Nat)
deriving DecidableEq, Repr

namespace Reception

/-- The state before the first byte. -/
def fresh : Reception := ⟨.start, [], 0, (0, 0), none, 0, []⟩

/-- Gives up the sentence that is being collected. -/
def reset (r : Reception) : Reception := { r with phase := .start }

/-- Starts to collect a body. -/
def begin (r : Reception) : Reception :=
  { r with phase := .fields, body := [], checksum := 0, headerEnd := none, fieldStart := 0,
           ranges := [] }

/-- Gives the sentence up for a reason. -/
def fail (r : Reception) (error : LinkError) : Reception × Outcome := (r.reset, .failed error)

/-- Collects a byte of the body, or gives the sentence up for want of room. -/
def append (config : Config) (r : Reception) (byte : UInt8) : Reception × Outcome :=
  if r.body.length < config.capacity then
    ({ r with body := r.body ++ [byte], checksum := Checksum.step r.checksum byte }, .pending)
  else r.fail .overrun

/-- Ends the header or a field here. Fields past the last that is kept are dropped. -/
def closeField (r : Reception) : Reception :=
  match r.headerEnd with
  | none => { r with headerEnd := some r.body.length }
  | some _ =>
    if r.ranges.length < maxFields then
      { r with ranges := r.ranges ++ [(r.fieldStart, r.body.length)] }
    else r

/-- Compares the digits with the checksum of the body. -/
def validate (r : Reception) : Reception × Outcome :=
  match Checksum.ofDigits r.digits with
  | .error error => r.fail error
  | .ok sum =>
    if sum = r.checksum then (r.reset, .complete)
    else r.fail (.checksumMismatch r.checksum.toUInt16 sum.toUInt16)

/-- Takes one byte. -/
def step (config : Config) (r : Reception) (byte : UInt8) : Reception × Outcome :=
  match r.phase with
  | .start => if config.starts.contains byte then (r.begin, .pending) else (r, .pending)
  | .fields =>
    if byte = 0x0A then r.fail .protocolViolation
    else if byte = 0x2A then ({ r.closeField with phase := .firstDigit }, .pending)
    else if byte = 0x2C then
      let (r, outcome) := append config r.closeField byte
      ({ r with fieldStart := r.body.length }, outcome)
    else append config r byte
  | .firstDigit => ({ r with phase := .secondDigit, digits := (byte, r.digits.2) }, .pending)
  | .secondDigit => ({ r with phase := .carriageReturn, digits := (r.digits.1, byte) }, .pending)
  | .carriageReturn =>
    if byte = 0x0D then ({ r with phase := .lineFeed }, .pending) else r.fail .protocolViolation
  | .lineFeed => if byte = 0x0A then r.validate else r.fail .protocolViolation

/-- The text between two places of some bytes, if it is one. -/
def slice? (bytes : List UInt8) (first last : Nat) : Option String :=
  if first ≤ last ∧ last ≤ bytes.length then text? ((bytes.take last).drop first) else none

/-- The talker and the identifier at the start of a header. Both are empty unless the header has
room for both. -/
def splitHeader (header : List UInt8) : String × String :=
  match slice? header 0 2, slice? header 2 5 with
  | some talker, some id => (talker, id)
  | _, _ => ("", "")

/-- The sentence that was collected. -/
def sentence (r : Reception) : Except LinkError RawSentence :=
  match text? r.body with
  | none => .error .protocolViolation
  | some _ =>
    let (talker, id) := splitHeader (r.body.take (r.headerEnd.getD 0))
    .ok (.ofFields talker id (r.ranges.map fun (first, last) => (slice? r.body first last).getD ""))

end Reception

/-- The receiver of sentences. -/
def receiver (config : Config) : Receiver Reception RawSentence where
  fresh := .fresh
  reset := Reception.reset
  step := Reception.step config
  item := Reception.sentence

end Sentence

end VehicleLink
