/-!
# Text/Hex — numbers in base sixteen

`Hex.lower` is the zero-padded lower-case form used inside error texts. `Hex.upperDigit` and
`Hex.digitValue?` are the two directions of one digit on the wire: the writer only produces capital
letters, the reader accepts both cases.
-/

namespace VehicleLink.Hex

/-- At least `width` lower-case digits, after `0x`. -/
def lower (width n : Nat) : String :=
  "0x" ++ String.ofList (List.leftpad width '0' (Nat.toDigits 16 n))

/-- The byte that spells the digit `n < 16`, with capital letters from ten on. -/
def upperDigit (n : Nat) : UInt8 :=
  UInt8.ofNat (if n < 10 then 0x30 + n else 0x41 + (n - 10))

/-- The value of the digit that `byte` spells, in either case. -/
def digitValue? (byte : UInt8) : Option Nat :=
  let n := byte.toNat
  if 0x30 ≤ n ∧ n ≤ 0x39 then some (n - 0x30)
  else if 0x41 ≤ n ∧ n ≤ 0x46 then some (n - 0x41 + 10)
  else if 0x61 ≤ n ∧ n ≤ 0x66 then some (n - 0x61 + 10)
  else none

theorem digitValue?_upperDigit {n : Nat} (h : n < 16) : digitValue? (upperDigit n) = some n := by
  revert h
  revert n
  decide

theorem digitValue?_lt {byte : UInt8} {n : Nat} (h : digitValue? byte = some n) : n < 16 := by
  grind [digitValue?]

end VehicleLink.Hex
