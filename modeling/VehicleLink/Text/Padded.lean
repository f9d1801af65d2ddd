import VehicleLink.Text.Utf8

/-!
# Text/Padded — short texts in a fixed number of bytes

A `PaddedText capacity` is exactly `capacity` bytes. Written from a text (`ofText`), it holds the
longest leading part that fits without splitting a character, then zeros. Any bytes may arrive from
a link, so `text` reads defensively: up to the first zero, and of that up to the first ill-formed
sequence. Equality is equality of all bytes, also of those that `text` does not reach.
-/

namespace VehicleLink

/-- Text stored in exactly `capacity` bytes. -/
structure PaddedText (capacity : Nat) where
  bytes : List UInt8
  length_bytes : bytes.length = capacity
deriving DecidableEq

namespace PaddedText

variable {capacity : Nat}

/-- The first `capacity` bytes of `raw`, followed by as many zeros as are missing. -/
def ofBytes (capacity : Nat) (raw : List UInt8) : PaddedText capacity where
  bytes := (raw.take capacity).rightpad capacity 0
  length_bytes := by
    simp only [List.rightpad, List.length_append, List.length_take, List.length_replicate]
    omega

/-- The longest leading part of `text` that fits, then zeros. -/
def ofText (capacity : Nat) (text : String) : PaddedText capacity :=
  ofBytes capacity (utf8 (String.ofList (fit capacity text.toList)))

/-- Only zeros. -/
def blank (capacity : Nat) : PaddedText capacity := ofBytes capacity []

/-- The text before the first zero, as far as it is well formed. -/
def text (padded : PaddedText capacity) : String :=
  leadingText (padded.bytes.takeWhile (· ≠ 0))

/-- Whether there is no text to read. -/
def isEmpty (padded : PaddedText capacity) : Bool := padded.text.isEmpty

theorem ofBytes_bytes (padded : PaddedText capacity) :
    ofBytes capacity padded.bytes = padded := by
  obtain ⟨bytes, rfl⟩ := padded
  simp [ofBytes, List.rightpad]

theorem bytes_ofText (text : String) :
    (ofText capacity text).bytes =
      (utf8 (String.ofList (fit capacity text.toList))).rightpad capacity 0 := by
  simp only [ofText, ofBytes]
  rw [List.take_of_length_le (length_utf8_fit _ _)]

end PaddedText

end VehicleLink
