import VehicleLink.Coded

/-!
# Frame/Version — the two framings

A frame starts with a marker that tells its version, and the version fixes the length of the header.
-/

namespace VehicleLink

/-- The version of a frame. -/
inductive Version where
  | v1 | v2
deriving DecidableEq, Repr

instance : Coded Version where
  title := "MavlinkVersion"
  members := [.v1, .v2]
  label
    | .v1 => (0xFE, "V1")
    | .v2 => (0xFD, "V2")

namespace Version

/-- The byte that starts a frame. -/
def marker (version : Version) : UInt8 := Coded.code version

/-- The version that a first byte announces. -/
def ofMarker? (byte : UInt8) : Option Version := Coded.ofCode? byte

/-- Bytes before the payload, the marker included. -/
def headerLength : Version → Nat
  | v1 => 6
  | v2 => 10

theorem ofMarker?_eq_some_iff {byte : UInt8} {version : Version} :
    ofMarker? byte = some version ↔ byte = version.marker := by
  constructor
  · exact fun h => (Coded.code_of_ofCode? h).symm
  · rintro rfl
    cases version <;> rfl

end Version

/-- Bytes of the checksum. -/
def checksumLength : Nat := 2

/-- Bytes of the signature that may end a frame. -/
def signatureLength : Nat := 13

end VehicleLink
