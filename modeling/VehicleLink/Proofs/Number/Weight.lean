import Mathlib.Algebra.Ring.Nat

/-!
# Proofs/Number/Weight — how many bits are set, and in how many two byte lists differ

Only the parity of a weight is needed, and parities add up: under exclusive or
(`weight_xor_mod_two`) and over byte lists (`bitDistance_mod_two`).
-/

namespace VehicleLink

/-- How many of the low `width` bits of `x` are set. -/
def weight (width x : Nat) : Nat := (List.range width).countP x.testBit

theorem weight_succ (width x : Nat) :
    weight (width + 1) x = weight width x + (x.testBit width).toNat := by
  rw [weight, List.range_succ, List.countP_append, List.countP_singleton]
  cases x.testBit width <;> rfl

/-- **The weight of an exclusive or has the parity of both weights together.** -/
theorem weight_xor_mod_two (width x y : Nat) :
    weight width (x ^^^ y) % 2 = (weight width x + weight width y) % 2 := by
  induction width with
  | zero => rfl
  | succ width ih =>
    rw [weight_succ, weight_succ, weight_succ, Nat.testBit_xor]
    cases x.testBit width <;> cases y.testBit width <;>
      simp only [Bool.xor_false, Bool.xor_true, Bool.not_false, Bool.not_true, Bool.toNat_false,
        Bool.toNat_true] <;> omega

/-- Halving loses the lowest bit and no other. -/
theorem weight_div_two (width x : Nat) :
    weight width (x / 2) + (x.testBit 0).toNat = weight (width + 1) x := by
  induction width with
  | zero =>
    rw [weight_succ]
    rfl
  | succ width ih =>
    rw [weight_succ (width + 1), ← ih, weight_succ, Nat.testBit_add_one]
    omega

/-- Bits that a number has no room for are not set. -/
theorem weight_of_lt {width x : Nat} (h : x < 2 ^ width) (more : Nat) :
    weight (width + more) x = weight width x := by
  induction more with
  | zero => rfl
  | succ more ih =>
    have hlt : x < 2 ^ (width + more) :=
      Nat.lt_of_lt_of_le h (Nat.pow_le_pow_right (by decide) (Nat.le_add_right ..))
    rw [← Nat.add_assoc, weight_succ, ih, Nat.testBit_lt_two_pow hlt]
    rfl

/-! ## Byte lists -/

/-- How many bits of some bytes are set. -/
def totalWeight (bytes : List UInt8) : Nat := (bytes.map fun byte => weight 8 byte.toNat).sum

theorem totalWeight_cons (byte : UInt8) (bytes : List UInt8) :
    totalWeight (byte :: bytes) = weight 8 byte.toNat + totalWeight bytes := rfl

theorem totalWeight_append (a b : List UInt8) :
    totalWeight (a ++ b) = totalWeight a + totalWeight b := by
  rw [totalWeight, List.map_append, List.sum_append, totalWeight, totalWeight]

/-- In how many bits two byte lists differ, place by place. -/
def bitDistance (a b : List UInt8) : Nat :=
  (List.zipWith (fun x y => weight 8 (x ^^^ y).toNat) a b).sum

/-- **In how many bits two byte lists differ has the parity of both weights together.** -/
theorem bitDistance_mod_two {a b : List UInt8} (h : a.length = b.length) :
    bitDistance a b % 2 = (totalWeight a + totalWeight b) % 2 := by
  induction a generalizing b with
  | nil =>
    rw [List.eq_nil_of_length_eq_zero h.symm]
    rfl
  | cons x a ih =>
    obtain ⟨y, b, rfl⟩ := List.exists_cons_of_length_eq_add_one h.symm
    have hrest := ih (Nat.succ.inj h)
    have hfirst := weight_xor_mod_two 8 x.toNat y.toNat
    have hcons : bitDistance (x :: a) (y :: b)
        = weight 8 (x.toNat ^^^ y.toNat) + bitDistance a b := by
      rw [bitDistance, List.zipWith_cons_cons, List.sum_cons, UInt8.toNat_xor]
      rfl
    rw [hcons, totalWeight_cons, totalWeight_cons]
    omega

end VehicleLink
