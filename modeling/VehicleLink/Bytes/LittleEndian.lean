/-!
# Bytes/LittleEndian — numbers as byte lists, lowest byte first

`littleEndian count x` and `ofLittleEndian bytes` undo each other: the first keeps the low `count`
bytes of `x` (`ofLittleEndian_littleEndian`), and every byte list is the spelling of its number
(`littleEndian_ofLittleEndian`).
-/

namespace VehicleLink

/-- The low `count` bytes of `x`. -/
def littleEndian : (count x : Nat) → List UInt8
  | 0, _ => []
  | count + 1, x => UInt8.ofNat x :: littleEndian count (x / 256)

/-- The number that `bytes` spells. -/
def ofLittleEndian : (bytes : List UInt8) → Nat
  | [] => 0
  | byte :: bytes => byte.toNat + 256 * ofLittleEndian bytes

@[simp] theorem length_littleEndian (count x : Nat) : (littleEndian count x).length = count := by
  induction count generalizing x with
  | zero => rfl
  | succ count ih => simp [littleEndian, ih]

theorem ofLittleEndian_littleEndian (count x : Nat) :
    ofLittleEndian (littleEndian count x) = x % Nat.pow 256 count := by
  induction count generalizing x with
  | zero => simp [littleEndian, ofLittleEndian, Nat.mod_one]
  | succ count ih =>
    have hbyte : (UInt8.ofNat x).toNat = x % 256 := UInt8.toNat_ofNat'
    rw [littleEndian, ofLittleEndian, ih, hbyte]
    show _ = x % (Nat.pow 256 count * 256)
    rw [Nat.mul_comm (Nat.pow 256 count), Nat.mod_mul]

@[simp] theorem littleEndian_ofLittleEndian (bytes : List UInt8) :
    littleEndian bytes.length (ofLittleEndian bytes) = bytes := by
  induction bytes with
  | nil => rfl
  | cons byte bytes ih =>
    have hlt := byte.toNat_lt
    have hdiv : (byte.toNat + 256 * ofLittleEndian bytes) / 256 = ofLittleEndian bytes := by omega
    have hbyte : UInt8.ofNat (byte.toNat + 256 * ofLittleEndian bytes) = byte := by
      apply UInt8.toNat_inj.1
      rw [UInt8.toNat_ofNat']
      omega
    simp [littleEndian, ofLittleEndian, hdiv, hbyte, ih]

end VehicleLink
