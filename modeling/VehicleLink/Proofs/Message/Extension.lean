import Mathlib.Data.List.DropRight
import Mathlib.Data.List.Infix
import VehicleLink.Proofs.Message.Layout

/-!
# Proofs/Message/Extension — payloads as records and back

Every payload reads as a record, and the bytes of that record are the payload at its layout's
length: cut if it is longer, filled up with zeros if it is shorter (`encodeRow_decodeRow`).  So a
record is a payload up to what lies behind the layout and zeros that are left out
(`decodeRow_eq_iff`).

The induction is on the fields.  The payload may break off in any of them, and `extended_add` cuts
the extended payload where the field ends.
-/

namespace VehicleLink

/-! ## One field -/

namespace Primitive

/-- The elements of a series spell the bytes that they were read from. -/
theorem flatMap_encode_decodeList (p : Primitive) {count : Nat} {bytes : List UInt8}
    (h : bytes.length = p.size * count) : (p.decodeList count bytes).flatMap p.encode = bytes := by
  induction count generalizing bytes with
  | zero => exact (List.eq_nil_of_length_eq_zero h).symm
  | succ count ih =>
    rw [Nat.mul_succ] at h
    have hfirst : (bytes.take p.size).length = p.size := by
      rw [List.length_take]
      omega
    have hrest : (bytes.drop p.size).length = p.size * count := by
      rw [List.length_drop]
      omega
    rw [decodeList, List.flatMap_cons, p.encode_decode hfirst, ih hrest, List.take_append_drop]

end Primitive

/-- **A field's value spells the bytes that it was read from.** -/
theorem Field.encode_decode (field : Field) {bytes : List UInt8} (h : bytes.length = field.size) :
    field.encode (field.decode bytes) = bytes := by
  obtain ⟨name, p, _ | n⟩ := field
  · exact p.encode_decode (h.trans (Nat.mul_one _))
  · exact p.flatMap_encode_decodeList h

/-! ## Payloads at a length -/

/-- The first `length` bytes of a payload, with zeros for those that it leaves out. -/
def extended (payload : List UInt8) (length : Nat) : List UInt8 :=
  (payload.take length).rightpad length 0

@[simp] theorem length_extended (payload : List UInt8) (length : Nat) :
    (extended payload length).length = length := by
  rw [extended, List.length_rightpad, List.length_take]
  omega

/-- What a longer extension adds is the extension of the rest. -/
theorem extended_add (payload : List UInt8) (first second : Nat) :
    extended payload (first + second)
      = extended payload first ++ extended (payload.drop first) second := by
  rcases Nat.le_total payload.length first with hshort | hlong
  · -- The payload ends before the cut: zeros on both sides of it.
    simp only [extended, List.rightpad, List.drop_of_length_le hshort, List.take_nil,
      List.nil_append, List.length_nil, Nat.sub_zero, List.append_assoc,
      List.replicate_append_replicate, List.take_of_length_le hshort,
      List.take_of_length_le (Nat.le_add_right_of_le hshort)]
    congr 2
    omega
  · have hfirst : (payload.take first).length = first := List.length_take_of_le hlong
    simp only [extended, List.rightpad, List.take_add, hfirst, Nat.sub_self, List.replicate_zero,
      List.append_nil, List.length_append, List.append_assoc, Nat.add_sub_add_left]

/-! ## All fields -/

/-- **The record in a payload spells the payload**, cut or filled up with zeros to the length of the
layout. -/
theorem encodeRow_decodeRow (payload : List UInt8) (fields : List Field) :
    encodeRow (decodeRow ⟨payload⟩ fields) = extended payload (layoutSize fields) := by
  induction fields generalizing payload with
  | nil => rfl
  | cons field fields ih =>
    have hfield := field.encode_decode (length_extended payload field.size)
    rw [decodeRow, layoutSize, extended_add, ← ih, encodeRow_cons]
    exact congrArg (· ++ _) hfield

theorem encodeRow_injective {fields : List Field} :
    Function.Injective (@encodeRow fields) := by
  intro row row' h
  rw [← decodeRow_encodeRow_append row [], h, decodeRow_encodeRow_append]

/-- **Two payloads hold the same record if and only if they are the same at the length of the
layout.** -/
theorem decodeRow_eq_iff (payload payload' : List UInt8) (fields : List Field) :
    decodeRow ⟨payload⟩ fields = decodeRow ⟨payload'⟩ fields
      ↔ extended payload (layoutSize fields) = extended payload' (layoutSize fields) := by
  rw [← encodeRow_decodeRow, ← encodeRow_decodeRow, encodeRow_injective.eq_iff]

/-! ## While reading -/

theorem isEmpty_mk (payload : List UInt8) :
    (PayloadReader.mk payload).isEmpty = decide (payload.length ≤ layoutSize []) := by
  cases payload <;> rfl

/-- **A reader is empty, at the start and after each field, when the fields read are at least as
long as the payload.** -/
theorem isEmpty_cons_drained (payload : List UInt8) (fields : List Field) :
    (PayloadReader.mk payload).isEmpty :: drained ⟨payload⟩ fields
      = fields.inits.map fun read => decide (payload.length ≤ layoutSize read) := by
  induction fields generalizing payload with
  | nil => rw [isEmpty_mk]; rfl
  | cons field fields ih =>
    have hread (read : List Field) : decide ((payload.drop field.size).length ≤ layoutSize read)
        = decide (payload.length ≤ layoutSize (field :: read)) := by
      rw [decide_eq_decide, List.length_drop, layoutSize]
      omega
    have hrest := (ih (payload.drop field.size)).trans (List.map_congr_left fun read _ => hread read)
    rw [List.inits_cons, List.map_cons, List.map_map, isEmpty_mk]
    exact congrArg _ hrest

end VehicleLink
