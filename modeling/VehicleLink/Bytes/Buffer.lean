/-!
# Bytes/Buffer — writing into storage of fixed size

`overwrite` replaces a stretch of a buffer and keeps its size. `Sink` fills a buffer from its start
and silently drops what does not fit, so that its content is always a leading part of what was
pushed.
-/

namespace VehicleLink

/-- `buffer` with `bytes` in the places from `start` on. -/
def overwrite (buffer : List UInt8) (start : Nat) (bytes : List UInt8) : List UInt8 :=
  buffer.take start ++ bytes ++ buffer.drop (start + bytes.length)

theorem length_overwrite {buffer bytes : List UInt8} {start : Nat}
    (h : start + bytes.length ≤ buffer.length) :
    (overwrite buffer start bytes).length = buffer.length := by
  simp only [overwrite, List.length_append, List.length_take, List.length_drop]
  omega

/-- Storage for `capacity` bytes, filled up to `written`. -/
structure Sink where
  capacity : Nat
  written : List UInt8
deriving DecidableEq, Repr

namespace Sink

/-- A sink that holds nothing yet. -/
def empty (capacity : Nat) : Sink := ⟨capacity, []⟩

/-- Writes as much of `bytes` as there is room for. -/
def push (sink : Sink) (bytes : List UInt8) : Sink :=
  { sink with written := sink.written ++ bytes.take (sink.capacity - sink.written.length) }

theorem push_push (sink : Sink) (a b : List UInt8) :
    (sink.push a).push b = sink.push (a ++ b) := by
  simp [push, List.take_append, Nat.sub_sub]
  omega

theorem written_push_empty (capacity : Nat) (bytes : List UInt8) :
    ((empty capacity).push bytes).written = bytes.take capacity := by
  simp [push, empty]

end Sink

end VehicleLink
