import VehicleLink.Text.Hex

/-!
# Error — why a link refuses input

One constructor per cause, for both protocols. The wording of a cause is `LinkError.message`; a
code that names no member of an enumeration is a cause of its own, `UnknownCode`.
-/

namespace VehicleLink

/-- What can go wrong while reading or writing a link. -/
inductive LinkError where
  /-- A field's text does not spell a value of its kind, or a frame is not of the asked type. -/
  | malformed
  /-- The bytes do not fit the buffer, or end too early. -/
  | overrun
  /-- The first byte of a frame starts neither protocol version. -/
  | invalidMarker (byte : UInt8)
  /-- One of the two checksum digits of a sentence is not hexadecimal. -/
  | invalidChecksumDigit
  /-- The checksum that was computed, and the one that was received. -/
  | checksumMismatch (expected actual : UInt16)
  /-- A sentence breaks off, does not end in its line break, or is not text. -/
  | protocolViolation
  /-- A sentence has fewer fields than its type. -/
  | fieldCountMismatch (expected actual : Nat)
deriving DecidableEq, Repr

namespace LinkError

/-- The text shown for a cause. -/
def message : LinkError → String
  | malformed => "Malformed field text"
  | overrun => "Buffer overrun"
  | invalidMarker byte => "Invalid start marker " ++ Hex.lower 2 byte.toNat
  | invalidChecksumDigit => "Invalid hex character in checksum"
  | checksumMismatch expected actual =>
    "Checksum mismatch: expected " ++ Hex.lower 4 expected.toNat ++ ", got "
      ++ Hex.lower 4 actual.toNat
  | protocolViolation => "Protocol violation"
  | fieldCountMismatch expected actual =>
    "Field count mismatch: expected " ++ toString expected ++ ", got " ++ toString actual

end LinkError

/-- A code outside the enumeration called `title`. -/
structure UnknownCode where
  title : String
  code : UInt8
deriving DecidableEq, Repr

/-- The text shown for a code that names nothing. -/
def UnknownCode.message (e : UnknownCode) : String :=
  "No discriminant in enum `" ++ e.title ++ "` matches the value `" ++ toString e.code ++ "`"

end VehicleLink
