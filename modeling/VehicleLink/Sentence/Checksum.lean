import VehicleLink.Error

/-!
# Sentence/Checksum — the checksum of sentences

The checksum is the exclusive or of the bytes between the start character and the star. It follows
the star as two hexadecimal digits, written in capitals and read in either case
(`Checksum.ofDigits_digits`).
-/

namespace VehicleLink

namespace Checksum

/-- The checksum after another byte. -/
def step (sum byte : UInt8) : UInt8 := sum ^^^ byte

/-- The checksum of `bytes` after `sum`. -/
def accumulate (sum : UInt8) (bytes : List UInt8) : UInt8 := bytes.foldl step sum

/-- The checksum of `bytes`. -/
def ofBytes (bytes : List UInt8) : UInt8 := accumulate 0 bytes

/-- The running checksum after each byte. -/
def running (sum : UInt8) : (bytes : List UInt8) → List UInt8
  | [] => []
  | byte :: bytes => step sum byte :: running (step sum byte) bytes

/-- The two digits of a checksum. -/
def digits (sum : UInt8) : UInt8 × UInt8 :=
  (Hex.upperDigit (sum.toNat / 16), Hex.upperDigit (sum.toNat % 16))

/-- The checksum that two digits spell. -/
def ofDigits : (digits : UInt8 × UInt8) → Except LinkError UInt8
  | (high, low) =>
    match Hex.digitValue? high, Hex.digitValue? low with
    | some high, some low => .ok (UInt8.ofNat (16 * high + low))
    | _, _ => .error .invalidChecksumDigit

theorem ofDigits_digits (sum : UInt8) : ofDigits (digits sum) = .ok sum := by
  have hlt := sum.toNat_lt
  rw [ofDigits, digits, Hex.digitValue?_upperDigit (by omega),
    Hex.digitValue?_upperDigit (by omega)]
  simp [Nat.div_add_mod]

end Checksum

end VehicleLink
