/-!
# Number/Rounding — the nearest whole number, ties to even

Both directions of number text need one rule: binary formats round a real to a multiple of their
last place, printed decimals to a multiple of `10⁻ᵖ`. `nearestQuot n d` is that rule on a quotient
of naturals and `nearest` on a nonnegative rational. It is within half a unit
(`two_mul_nearestQuot_le`, `le_two_mul_nearestQuot`), and an exact half goes to the even neighbour
(`nearestQuot_even`).
-/

namespace VehicleLink

/-- The whole number nearest to `n / d`, the even one of two that are equally near. -/
def nearestQuot (n d : Nat) : Nat :=
  let below := n / d
  let doubled := 2 * (n % d)
  if doubled < d ∨ (doubled = d ∧ below % 2 = 0) then below else below + 1

/-- The whole number nearest to `q ≥ 0`, the even one of two that are equally near. -/
def nearest (q : Rat) : Nat := nearestQuot q.num.toNat q.den

theorem two_mul_nearestQuot_le {n d : Nat} (hd : 0 < d) :
    2 * (nearestQuot n d * d) ≤ 2 * n + d := by
  have hsplit := Nat.div_add_mod n d
  have hcomm := Nat.mul_comm d (n / d)
  unfold nearestQuot
  dsimp only
  split
  · omega
  · rw [Nat.add_mul]
    omega

theorem le_two_mul_nearestQuot {n d : Nat} (hd : 0 < d) :
    2 * n ≤ 2 * (nearestQuot n d * d) + d := by
  have hsplit := Nat.div_add_mod n d
  have hcomm := Nat.mul_comm d (n / d)
  have hlt := Nat.mod_lt n hd
  unfold nearestQuot
  dsimp only
  split
  · omega
  · rw [Nat.add_mul]
    omega

theorem nearestQuot_even {n d : Nat} (hd : 0 < d)
    (h : 2 * n = 2 * (nearestQuot n d * d) + d ∨ 2 * n + d = 2 * (nearestQuot n d * d)) :
    nearestQuot n d % 2 = 0 := by
  have hsplit := Nat.div_add_mod n d
  have hcomm := Nat.mul_comm d (n / d)
  have hlt := Nat.mod_lt n hd
  revert h
  unfold nearestQuot
  dsimp only
  split
  · omega
  · rw [Nat.add_mul]
    omega

theorem nearestQuot_mul (k : Nat) {d : Nat} (hd : 0 < d) : nearestQuot (k * d) d = k := by
  simp [nearestQuot, Nat.mul_div_cancel k hd, hd]

end VehicleLink
