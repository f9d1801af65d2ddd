import VehicleLink.Receiver

/-!
# Proofs/Receiver/Stream — items on a noisy stream

A stream carries parcels: each is some noise and then the bytes of an item.  A reading of streams
that skips the noise and takes the items whole reports one event for each parcel, at its last byte
(`events_stream`).  Both protocols are readings of this kind.
-/

namespace VehicleLink

/-- An item on a stream, and the noise before it. -/
structure Parcel where
  noise : List UInt8
  bytes : List UInt8

namespace Parcel

/-- The parcels one after the other, and noise behind the last. -/
def stream (trailing : List UInt8) : (parcels : List Parcel) → List UInt8
  | [] => trailing
  | parcel :: parcels => parcel.noise ++ (parcel.bytes ++ stream trailing parcels)

/-- The place of the last byte of each item, counted from `place`. -/
def lastPlaces (place : Nat) : (parcels : List Parcel) → List Nat
  | [] => []
  | parcel :: parcels =>
    let next := place + parcel.noise.length + parcel.bytes.length
    (next - 1) :: lastPlaces next parcels

variable {ε : Type} (events : Nat → List UInt8 → List (Nat × ε))

/-- Whether a reading of streams passes over bytes without an event. -/
def Skips (bytes : List UInt8) : Prop :=
  ∀ place rest, events place (bytes ++ rest) = events (place + bytes.length) rest

/-- Whether a reading of streams reports exactly one event for bytes, at the last of them. -/
def Reports (bytes : List UInt8) (event : ε) : Prop :=
  ∀ place rest, events place (bytes ++ rest)
    = (place + bytes.length - 1, event) :: events (place + bytes.length) rest

theorem skips_of_forall {bytes : List UInt8}
    (h : ∀ byte ∈ bytes, ∀ place rest, events place (byte :: rest) = events (place + 1) rest) :
    Skips events bytes := by
  intro place rest
  induction bytes generalizing place with
  | nil => rfl
  | cons byte bytes ih =>
    obtain ⟨hbyte, hbytes⟩ := List.forall_mem_cons.mp h
    rw [List.cons_append, hbyte, ih hbytes, List.length_cons, Nat.add_assoc, Nat.add_comm 1]

theorem Skips.alone {bytes : List UInt8} (h : Skips events bytes)
    (hnil : ∀ place, events place [] = []) (place : Nat) : events place bytes = [] := by
  have hbytes := h place []
  rwa [List.append_nil, hnil] at hbytes

theorem Reports.alone {bytes : List UInt8} {event : ε} (h : Reports events bytes event)
    (hnil : ∀ place, events place [] = []) (place : Nat) :
    events place bytes = [(place + bytes.length - 1, event)] := by
  have hbytes := h place []
  rwa [List.append_nil, hnil] at hbytes

/-- **A reading that skips the noise and takes the items reports each item**, at its last byte. -/
theorem events_stream {σ : Type} {parcel : σ → Parcel} {event : σ → ε} {items : List σ}
    {trailing : List UInt8} (hnil : ∀ place, events place [] = [])
    (hitems : ∀ item ∈ items, Skips events (parcel item).noise ∧
      Reports events (parcel item).bytes (event item))
    (htrailing : Skips events trailing) (place : Nat) :
    events place (stream trailing (items.map parcel))
      = (lastPlaces place (items.map parcel)).zip (items.map event) := by
  induction items generalizing place with
  | nil => exact htrailing.alone _ hnil place
  | cons item items ih =>
    obtain ⟨⟨hnoise, hbytes⟩, hitems⟩ := List.forall_mem_cons.mp hitems
    rw [List.map_cons, List.map_cons, stream, hnoise, hbytes, ih hitems, lastPlaces,
      List.zip_cons_cons]

end Parcel

end VehicleLink
