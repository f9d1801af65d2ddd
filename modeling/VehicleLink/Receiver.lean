import VehicleLink.Error

/-!
# Receiver — items cut from a byte stream, one step per byte

Both protocols are received in the same way: a state takes one byte, and either waits for more, or
has an item complete, or gives the item up. A `Receiver` names what differs between them, and all
that a caller needs follows from it: the event of one byte (`push`), the first event of a stretch of
bytes and the bytes after it (`pushBytes`), and the events of a whole stream with their places
(`run`). The state after two stretches is that after their concatenation (`run_append`).
-/

namespace VehicleLink

/-- What a byte did. -/
inductive Outcome where
  | pending
  | complete
  | failed (error : LinkError)
deriving DecidableEq, Repr

/-- A receiver with states `σ` that cuts items `α` from a byte stream. -/
structure Receiver (σ α : Type) where
  /-- The state before the first byte. -/
  fresh : σ
  /-- Gives up what is being collected. -/
  reset : (state : σ) → σ
  /-- Takes one byte. -/
  step : (state : σ) → (byte : UInt8) → σ × Outcome
  /-- The item that a state has collected when it is complete. -/
  item : (state : σ) → Except LinkError α

/-- What a receiver reports: an item, or the reason for giving one up. -/
abbrev Event (α : Type) : Type := Except LinkError α

namespace Receiver

variable {σ α : Type} (receiver : Receiver σ α)

/-- The event of an outcome. -/
def event? (state : σ) : (outcome : Outcome) → Option (Event α)
  | .pending => none
  | .complete => some (receiver.item state)
  | .failed error => some (.error error)

/-- Takes one byte and reports the event it causes, if any. -/
def push (state : σ) (byte : UInt8) : σ × Option (Event α) :=
  let (state, outcome) := receiver.step state byte
  (state, receiver.event? state outcome)

/-- Takes bytes up to the first event, and returns those that were not taken. -/
def pushBytes (state : σ) : (bytes : List UInt8) → σ × Option (Event α) × List UInt8
  | [] => (state, none, [])
  | byte :: bytes =>
    match receiver.push state byte with
    | (state, some event) => (state, some event, bytes)
    | (state, none) => pushBytes state bytes

/-- Takes all bytes and lists the events with the places of their bytes, counted from `place`. -/
def run (state : σ) (place : Nat) : (bytes : List UInt8) → σ × List (Nat × Event α)
  | [] => (state, [])
  | byte :: bytes =>
    let (state, event?) := receiver.push state byte
    let (state, events) := run state (place + 1) bytes
    (state, (event?.map (place, ·)).toList ++ events)

theorem run_append (state : σ) (place : Nat) (first second : List UInt8) :
    receiver.run state place (first ++ second) =
      let (middle, events) := receiver.run state place first
      let (last, events') := receiver.run middle (place + first.length) second
      (last, events ++ events') := by
  induction first generalizing state place with
  | nil => rfl
  | cons byte first ih =>
    simp only [List.cons_append, run, ih, List.length_cons, List.append_assoc, Nat.add_assoc,
      Nat.add_comm 1]

end Receiver

end VehicleLink
