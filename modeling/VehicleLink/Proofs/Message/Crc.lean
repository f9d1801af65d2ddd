import VehicleLink.Message.Crc
import VehicleLink.Proofs.Number.Weight

/-!
# Proofs/Message/Crc — what the checksum cannot miss

Shifting out a bit is linear (`shiftOut_xor`) and loses nothing (`shiftOut_injective`).  So bytes
that differ only within a window of two are told apart, whatever stands around the window
(`bitwise_window`): the window is as wide as the checksum, and sixteen shifts of it are a
bijection.

The polynomial has an even number of terms, so a shift also keeps the parity of the bits that are
set (`weight_shiftOut`): the checksum shows the parity of all bits before it (`weight_bitwise`).
-/

namespace VehicleLink.Crc

/-! ## One bit -/

theorem and_one_eq_one_iff (crc : UInt16) : crc &&& 1 = 1 ↔ crc.toNat.testBit 0 = true := by
  have hone : (1 : UInt16).toNat = 1 := rfl
  rw [← UInt16.toNat_inj, UInt16.toNat_and, hone, Nat.and_one_is_mod, Nat.testBit_zero,
    decide_eq_true_iff]

theorem shiftOut_of_even {crc : UInt16} (h : crc.toNat.testBit 0 = false) :
    shiftOut crc = crc >>> 1 := by
  rw [shiftOut, if_neg]
  rw [and_one_eq_one_iff, h]
  exact Bool.false_ne_true

theorem shiftOut_of_odd {crc : UInt16} (h : crc.toNat.testBit 0 = true) :
    shiftOut crc = (crc >>> 1) ^^^ 0x8408 := by
  rw [shiftOut, if_pos ((and_one_eq_one_iff crc).mpr h)]

theorem toNat_shiftRight_one (crc : UInt16) : (crc >>> 1).toNat = crc.toNat / 2 := rfl

/-- **Shifting out a bit is linear.** -/
theorem shiftOut_xor (a b : UInt16) : shiftOut (a ^^^ b) = shiftOut a ^^^ shiftOut b := by
  have hlow : (a ^^^ b).toNat.testBit 0 = (a.toNat.testBit 0 ^^ b.toNat.testBit 0) := by
    rw [UInt16.toNat_xor, Nat.testBit_xor]
  cases ha : a.toNat.testBit 0 <;> cases hb : b.toNat.testBit 0 <;> rw [ha, hb] at hlow
  · rw [shiftOut_of_even ha, shiftOut_of_even hb, shiftOut_of_even hlow, UInt16.shiftRight_xor]
  · rw [shiftOut_of_even ha, shiftOut_of_odd hb, shiftOut_of_odd hlow, UInt16.shiftRight_xor,
      UInt16.xor_assoc]
  · rw [shiftOut_of_odd ha, shiftOut_of_even hb, shiftOut_of_odd hlow, UInt16.shiftRight_xor]
    ac_rfl
  · -- The polynomial is added twice, which is not at all.
    have htwice (p x y : UInt16) : (x ^^^ p) ^^^ (y ^^^ p) = (x ^^^ y) ^^^ (p ^^^ p) := by ac_rfl
    rw [shiftOut_of_odd ha, shiftOut_of_odd hb, shiftOut_of_even hlow, UInt16.shiftRight_xor,
      htwice, UInt16.xor_self, UInt16.xor_zero]

/-- **Shifting out a bit loses nothing**: the highest bit tells whether the polynomial was added. -/
theorem shiftOut_injective : Function.Injective shiftOut := by
  have hzero : ∀ crc : UInt16, shiftOut crc = 0 → crc = 0 := by
    intro crc h
    have hlt := crc.toNat_lt
    cases hlow : crc.toNat.testBit 0 with
    | false =>
      rw [shiftOut_of_even hlow, ← UInt16.toNat_inj, toNat_shiftRight_one] at h
      rw [← UInt16.toNat_inj]
      rw [Nat.testBit_zero, decide_eq_false_iff_not] at hlow
      simp only [UInt16.toNat_zero] at h ⊢
      omega
    | true =>
      rw [shiftOut_of_odd hlow, UInt16.xor_eq_zero_iff, ← UInt16.toNat_inj,
        toNat_shiftRight_one] at h
      have hpoly : (0x8408 : UInt16).toNat = 0x8408 := rfl
      omega
  intro a b h
  rw [← UInt16.xor_eq_zero_iff]
  apply hzero
  rw [shiftOut_xor, h, UInt16.xor_self]

/-! ## Several bits -/

theorem repeat_shiftOut_xor (count : Nat) (a b : UInt16) :
    Nat.repeat shiftOut count (a ^^^ b)
      = Nat.repeat shiftOut count a ^^^ Nat.repeat shiftOut count b := by
  induction count with
  | zero => rfl
  | succ count ih => simp only [Nat.repeat, ih, shiftOut_xor]

theorem repeat_shiftOut_injective (count : Nat) : Function.Injective (Nat.repeat shiftOut count) := by
  induction count with
  | zero => exact fun _ _ h => h
  | succ count ih => exact fun _ _ h => ih (shiftOut_injective h)

/-- Zeros at the low end are shifted out without a trace. -/
theorem toNat_repeat_shiftOut (count : Nat) {crc : UInt16} (h : 2 ^ count ∣ crc.toNat) :
    (Nat.repeat shiftOut count crc).toNat = crc.toNat / 2 ^ count := by
  induction count with
  | zero => exact (Nat.div_one _).symm
  | succ count ih =>
    obtain ⟨high, hhigh⟩ := h
    rw [Nat.pow_succ, Nat.mul_assoc] at hhigh
    have hrest := ih ⟨_, hhigh⟩
    have hpos : 0 < 2 ^ count := Nat.two_pow_pos count
    have heven : (Nat.repeat shiftOut count crc).toNat = 2 * high := by
      rw [hrest, hhigh, Nat.mul_div_cancel_left _ hpos]
    have hlow : (Nat.repeat shiftOut count crc).toNat.testBit 0 = false := by
      rw [heven, Nat.testBit_zero, Nat.mul_mod_right]
      rfl
    rw [Nat.repeat, shiftOut_of_even hlow, toNat_shiftRight_one, hrest,
      Nat.div_div_eq_div_mul, Nat.pow_succ]

/-! ## Bytes -/

theorem bitwise_append (crc : UInt16) (a b : List UInt8) :
    bitwise crc (a ++ b) = bitwise (bitwise crc a) b := List.foldl_append

/-- Two bytes as one word, the first in its low half. -/
def window (a b : UInt8) : UInt16 := a.toUInt16 ^^^ UInt16.ofNat (2 ^ 8 * b.toNat)

theorem toNat_ofNat_high (byte : UInt8) :
    (UInt16.ofNat (2 ^ 8 * byte.toNat)).toNat = 2 ^ 8 * byte.toNat :=
  UInt16.toNat_ofNat_of_lt' (Nat.mul_lt_mul_of_pos_left byte.toNat_lt (by decide))

theorem toNat_window (a b : UInt8) : (window a b).toNat = a.toNat + 2 ^ 8 * b.toNat := by
  have hvalue : (window a b).toNat = a.toNat ^^^ 2 ^ 8 * b.toNat := by
    rw [window, UInt16.toNat_xor, UInt8.toNat_toUInt16, toNat_ofNat_high]
  have hlow : (window a b).toNat % 2 ^ 8 = a.toNat := by
    rw [hvalue, Nat.xor_mod_two_pow, Nat.mul_mod_right, Nat.xor_zero, Nat.mod_eq_of_lt a.toNat_lt]
  have hhigh : (window a b).toNat / 2 ^ 8 = b.toNat := by
    rw [hvalue, Nat.xor_div_two_pow, Nat.mul_div_cancel_left _ (by decide),
      Nat.div_eq_of_lt a.toNat_lt, Nat.zero_xor]
  rw [← hlow, ← hhigh, Nat.mod_add_div]

theorem window_injective {a b a' b' : UInt8} (h : window a b = window a' b') : a = a' ∧ b = b' := by
  have ha := a.toNat_lt
  have ha' := a'.toNat_lt
  have hvalue := congrArg UInt16.toNat h
  rw [toNat_window, toNat_window] at hvalue
  exact ⟨UInt8.toNat_inj.mp (by omega), UInt8.toNat_inj.mp (by omega)⟩

/-- A word is its two bytes. -/
theorem window_halves (crc : UInt16) : window crc.toUInt8 (crc >>> 8).toUInt8 = crc := by
  have hlt := crc.toNat_lt
  have hlow : crc.toUInt8.toNat = crc.toNat % 2 ^ 8 := rfl
  have hhigh : (crc >>> 8).toUInt8.toNat = crc.toNat / 2 ^ 8 % 2 ^ 8 := by
    rw [UInt16.toNat_toUInt8, UInt16.toNat_shiftRight, Nat.shiftRight_eq_div_pow]
    rfl
  rw [← UInt16.toNat_inj, toNat_window, hlow, hhigh]
  omega

/-- Eight shifts move a byte from the high half to the low half. -/
theorem repeat_shiftOut_high (byte : UInt8) :
    Nat.repeat shiftOut 8 (UInt16.ofNat (2 ^ 8 * byte.toNat)) = byte.toUInt16 := by
  have hdvd : 2 ^ 8 ∣ (UInt16.ofNat (2 ^ 8 * byte.toNat)).toNat := by
    rw [toNat_ofNat_high]
    exact Nat.dvd_mul_right ..
  rw [← UInt16.toNat_inj, toNat_repeat_shiftOut 8 hdvd, toNat_ofNat_high,
    Nat.mul_div_cancel_left _ (by decide), UInt8.toNat_toUInt16]

/-- Two bytes are sixteen shifts of a single window: the second can be added eight places higher,
before the shifts of the first. -/
theorem bitwiseStep_bitwiseStep (crc : UInt16) (a b : UInt8) :
    bitwiseStep (bitwiseStep crc a) b = Nat.repeat shiftOut 16 (crc ^^^ window a b) := by
  rw [bitwiseStep, bitwiseStep, ← repeat_shiftOut_high b, ← repeat_shiftOut_xor, UInt16.xor_assoc]
  rfl

/-- What came before the same bytes is not forgotten. -/
theorem bitwise_injective (bytes : List UInt8) : Function.Injective (bitwise · bytes) := by
  induction bytes with
  | nil => exact fun _ _ h => h
  | cons byte bytes ih =>
    intro crc crc' h
    exact (UInt16.xor_left_inj byte.toUInt16).mp (repeat_shiftOut_injective 8 (ih h))

/-- **Bytes within a window of two are told apart.** -/
theorem eq_of_bitwise_eq {crc : UInt16} {a b : List UInt8} (hlength : a.length = b.length)
    (hshort : a.length ≤ 2) (h : bitwise crc a = bitwise crc b) : a = b := by
  match a, b, hlength, hshort, h with
  | [], [], _, _, _ => rfl
  | [a], [b], _, _, h =>
    have hword := (UInt16.xor_right_inj crc).mp (repeat_shiftOut_injective 8 h)
    rw [UInt8.toUInt16_inj.mp hword]
  | [a₁, a₂], [b₁, b₂], _, _, h =>
    have h : bitwiseStep (bitwiseStep crc a₁) a₂ = bitwiseStep (bitwiseStep crc b₁) b₂ := h
    rw [bitwiseStep_bitwiseStep, bitwiseStep_bitwiseStep] at h
    have hword := (UInt16.xor_right_inj crc).mp (repeat_shiftOut_injective 16 h)
    obtain ⟨rfl, rfl⟩ := window_injective hword
    rfl

/-- **…and whatever stands before and behind the window.** -/
theorem bitwise_window {crc : UInt16} {a b : List UInt8} (front back : List UInt8)
    (hlength : a.length = b.length) (hshort : a.length ≤ 2)
    (h : bitwise crc (front ++ a ++ back) = bitwise crc (front ++ b ++ back)) : a = b := by
  rw [bitwise_append, bitwise_append, bitwise_append _ (front ++ b), bitwise_append _ front] at h
  exact eq_of_bitwise_eq hlength hshort (bitwise_injective back h)

/-! ## Parity -/

/-- **Shifting out a bit keeps the parity of the bits that are set.** -/
theorem weight_shiftOut (crc : UInt16) :
    weight 16 (shiftOut crc).toNat % 2 = weight 16 crc.toNat % 2 := by
  have hhalf := weight_div_two 16 crc.toNat
  rw [weight_of_lt crc.toNat_lt 1] at hhalf
  cases hlow : crc.toNat.testBit 0 with
  | false =>
    rw [hlow, Bool.toNat_false, Nat.add_zero] at hhalf
    rw [shiftOut_of_even hlow, toNat_shiftRight_one, hhalf]
  | true =>
    -- One bit goes, and the polynomial brings three.
    have hpoly : weight 16 (0x8408 : UInt16).toNat = 3 := by decide
    rw [hlow, Bool.toNat_true] at hhalf
    rw [shiftOut_of_odd hlow, UInt16.toNat_xor, weight_xor_mod_two, hpoly, toNat_shiftRight_one]
    omega

theorem weight_repeat_shiftOut (count : Nat) (crc : UInt16) :
    weight 16 (Nat.repeat shiftOut count crc).toNat % 2 = weight 16 crc.toNat % 2 := by
  induction count with
  | zero => rfl
  | succ count ih => exact (weight_shiftOut _).trans ih

/-- **The checksum has the parity of all bits before it.** -/
theorem weight_bitwise (crc : UInt16) (bytes : List UInt8) :
    weight 16 (bitwise crc bytes).toNat % 2 = (weight 16 crc.toNat + totalWeight bytes) % 2 := by
  induction bytes generalizing crc with
  | nil => rfl
  | cons byte bytes ih =>
    have hstep : weight 16 (bitwiseStep crc byte).toNat % 2
        = (weight 16 crc.toNat + weight 8 byte.toNat) % 2 := by
      rw [bitwiseStep, weight_repeat_shiftOut, UInt16.toNat_xor, weight_xor_mod_two,
        UInt8.toNat_toUInt16, weight_of_lt byte.toNat_lt 8]
    have hrest : weight 16 (bitwise crc (byte :: bytes)).toNat % 2
        = (weight 16 (bitwiseStep crc byte).toNat + totalWeight bytes) % 2 := ih _
    rw [hrest, totalWeight_cons]
    omega

end VehicleLink.Crc
