import VehicleLink.Bytes.Buffer

/-!
# Proofs/Bytes/Buffer — what a buffer holds after a stretch of it is overwritten

Before the stretch and behind it a buffer is as it was (`take_start_overwrite`, `drop_overwrite`),
so what is written from the start on stands there (`overwrite_zero`), and one that is written behind
it goes on from there (`overwrite_overwrite_of_le`).
-/

namespace VehicleLink

@[simp] theorem overwrite_nil (buffer : List UInt8) (start : Nat) :
    overwrite buffer start [] = buffer := by
  rw [overwrite, List.append_nil, List.length_nil, Nat.add_zero, List.take_append_drop]

theorem overwrite_zero (buffer bytes : List UInt8) :
    overwrite buffer 0 bytes = bytes ++ buffer.drop bytes.length := by
  rw [overwrite, Nat.zero_add, List.take_zero, List.nil_append]

theorem take_overwrite_zero (buffer bytes : List UInt8) :
    (overwrite buffer 0 bytes).take bytes.length = bytes := by
  rw [overwrite_zero, List.take_left]

section Start

variable {buffer : List UInt8} {start : Nat} (h : start ≤ buffer.length)

include h

theorem drop_start_overwrite (bytes : List UInt8) :
    (overwrite buffer start bytes).drop start = bytes ++ buffer.drop (start + bytes.length) := by
  have hstart : (buffer.take start).length = start := List.length_take_of_le h
  rw [overwrite, List.append_assoc, List.drop_left' hstart]

theorem take_start_overwrite (bytes : List UInt8) :
    (overwrite buffer start bytes).take start = buffer.take start := by
  have hstart : (buffer.take start).length = start := List.length_take_of_le h
  rw [overwrite, List.append_assoc, List.take_left' hstart]

/-- What lies behind the bytes written is left alone. -/
theorem drop_overwrite {bytes : List UInt8} {place : Nat} (hplace : start + bytes.length ≤ place) :
    (overwrite buffer start bytes).drop place = buffer.drop place := by
  obtain ⟨count, rfl⟩ := Nat.exists_eq_add_of_le hplace
  rw [Nat.add_assoc, ← List.drop_drop, drop_start_overwrite h, ← List.drop_drop, List.drop_left,
    List.drop_drop, Nat.add_assoc]

/-- Writing a stretch twice, the second time at least as far, is writing it once. -/
theorem overwrite_overwrite_of_le {first second : List UInt8} (hle : first.length ≤ second.length) :
    overwrite (overwrite buffer start first) start second = overwrite buffer start second := by
  rw [overwrite, take_start_overwrite h, drop_overwrite h (Nat.add_le_add_left hle start),
    overwrite]

end Start

end VehicleLink
