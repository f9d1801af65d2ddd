import VehicleLink.Proofs.Number.Integer

/-!
# Proofs/Number/Filled — numbers filled with zeros, and no further

The digits of a number start with a zero only if the number is zero (`head?_toDigits`).  Filled from
the left up to a width they are `Filled`: wide enough, and with a leading zero too many only where
the width asks for it.  So a number that fits in the width has as many digits as there are places
(`Filled.length_eq`).
-/

namespace VehicleLink

/-- Whether a text of the given length that starts with the digits `whole` is filled up to `width`
and no further: past the width, no digit of `whole` can be spared. -/
structure Filled (width length : Nat) (whole : List Char) : Prop where
  wide : width ≤ length
  tight : width < length → whole = ['0'] ∨ whole.head? ≠ some '0'

theorem digitChar_ne_zero {n : Nat} (hpos : 0 < n) (hlt : n < 10) : n.digitChar ≠ '0' := by
  intro h
  have hvalue := Nat.toNat_digitChar_sub_48_of_lt_ten hlt
  rw [h] at hvalue
  exact absurd hvalue (Nat.ne_of_lt hpos)

/-- **Only the digits of zero start with a zero.** -/
theorem head?_toDigits {n : Nat} (h : 0 < n) : (Nat.toDigits 10 n).head? ≠ some '0' := by
  induction n using Nat.strongRecOn with
  | ind n ih =>
    rw [Nat.toDigits_eq_if (by decide)]
    split
    · next hlt =>
      rw [List.head?_cons, ne_eq, Option.some.injEq]
      exact digitChar_ne_zero h hlt
    · next hge =>
      have hfirst := ih (n / 10) (by omega) (by omega)
      obtain ⟨c, cs, hdigits⟩ :=
        List.exists_cons_of_ne_nil (Nat.toDigits_ne_nil (n := n / 10) (b := 10))
      rw [hdigits] at hfirst ⊢
      exact hfirst

theorem toDigits_eq_or_head? (n : Nat) :
    Nat.toDigits 10 n = ['0'] ∨ (Nat.toDigits 10 n).head? ≠ some '0' := by
  rcases Nat.eq_zero_or_pos n with rfl | hpos
  · exact .inl rfl
  · exact .inr (head?_toDigits hpos)

/-- Zeros in front of digits that have none to spare, as many as a text of some length is short of the
width. -/
theorem filled_replicate {whole : List Char} (h : whole = ['0'] ∨ whole.head? ≠ some '0')
    (width length : Nat) :
    Filled width (max width length) (List.replicate (width - length) '0' ++ whole) := by
  refine ⟨Nat.le_max_left .., fun hlong => ?_⟩
  have hnone : width - length = 0 := by omega
  rwa [hnone, List.replicate_zero, List.nil_append]

/-- **Digits that are filled up have as many places as were asked for**, if the number they spell has
no more.  In front of the text is the part `whole`, and behind it `rest` more characters. -/
theorem Filled.length_eq {width rest : Nat} {whole : List Char}
    (h : Filled (width + rest) (whole.length + rest) whole) (hdigits : ∀ c ∈ whole, c.isDigit)
    (hsmall : Nat.ofDigitChars 10 whole 0 < 10 ^ width) (hwidth : 0 < width) :
    whole.length = width := by
  refine Nat.le_antisymm (Nat.not_lt.mp fun hlong => ?_) (Nat.le_of_add_le_add_right h.wide)
  rcases h.tight (Nat.add_lt_add_right hlong rest) with rfl | hfirst
  · exact absurd hlong (Nat.not_lt.mpr hwidth)
  · cases whole with
    | nil => exact Nat.not_lt_zero _ hlong
    | cons c cs =>
      have hne : c ≠ '0' := fun heq => hfirst (congrArg some heq)
      have hlarge := le_ofDigitChars (hdigits c List.mem_cons_self) hne cs
      exact Nat.not_lt.mpr (Nat.le_of_lt_succ hlong)
        ((Nat.pow_lt_pow_iff_right (by decide)).mp (Nat.lt_of_le_of_lt hlarge hsmall))

end VehicleLink
