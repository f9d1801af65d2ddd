import VehicleLink.Number.Decimal
import VehicleLink.Proofs.Number.Filled

/-!
# Proofs/Number/Decimal — printed decimals read back as numerals

Printing a finite number gives digits around a point (`fixedDigits_eq`), and filling them up adds
digits in front of them.  Reading such a text gives a numeral with the same digits
(`Numeral.decimal?_pointed`), so the numeral read is the one that was rounded for printing
(`Numeral.ofText?_fixed`).
-/

namespace VehicleLink

/-- Digits with a point in front of the last ones, if there are to be any. -/
def pointed (places : Nat) (whole fraction : List Char) : List Char :=
  if places = 0 then whole else whole ++ '.' :: fraction

theorem pointed_cons (places : Nat) (c : Char) (whole fraction : List Char) :
    pointed places (c :: whole) fraction = c :: pointed places whole fraction := by
  rw [pointed, pointed]
  split <;> rfl

theorem leftpad_pointed (places width : Nat) (whole fraction : List Char) :
    (pointed places whole fraction).leftpad width '0'
      = pointed places
          (List.replicate (width - (pointed places whole fraction).length) '0' ++ whole)
          fraction := by
  rw [List.leftpad]
  generalize width - (pointed places whole fraction).length = zeros
  by_cases hplaces : places = 0
  · rw [pointed, pointed, if_pos hplaces, if_pos hplaces]
  · rw [pointed, pointed, if_neg hplaces, if_neg hplaces, List.append_assoc]

/-- Digits that are filled up to one more than `places` have one digit too many, or none, in front of
the last `places`. -/
theorem take_leftpad {digits : List Char} (h : digits = ['0'] ∨ digits.head? ≠ some '0')
    (hne : digits ≠ []) (places : Nat) :
    (digits.leftpad (places + 1) '0').take ((digits.leftpad (places + 1) '0').length - places)
        = ['0'] ∨
      ((digits.leftpad (places + 1) '0').take
        ((digits.leftpad (places + 1) '0').length - places)).head? ≠ some '0' := by
  have hlength : 0 < digits.length := List.length_pos_iff.mpr hne
  rw [List.length_leftpad]
  rcases Nat.lt_or_ge places digits.length with hlong | hshort
  · -- Nothing is filled in, so the first digit is that of the number.
    have hpad : digits.leftpad (places + 1) '0' = digits := by
      rw [List.leftpad, Nat.sub_eq_zero_of_le hlong, List.replicate_zero, List.nil_append]
    rw [hpad, Nat.max_eq_right hlong]
    rcases h with rfl | hhead
    · have hplaces : places = 0 := by simpa using hlong
      subst hplaces
      exact .inl rfl
    · right
      obtain ⟨c, cs, rfl⟩ := List.exists_cons_of_ne_nil hne
      obtain ⟨n, hn⟩ := Nat.exists_eq_add_of_lt hlong
      have hpos : (c :: cs).length - places = n + 1 := by omega
      rw [hpos, List.take_succ_cons]
      exact hhead
  · left
    obtain ⟨zeros, hzeros⟩ := Nat.exists_eq_add_of_le hshort
    have hpad : places + 1 - digits.length = zeros + 1 := by omega
    have hone : max (places + 1) digits.length - places = 1 := by omega
    rw [hone, List.leftpad, hpad, List.replicate_succ]
    rfl

/-- **Printing gives digits around a point**, and the digits spell the rounded number. -/
theorem fixedDigits_eq (places : Nat) (q : Rat) :
    ∃ whole fraction, fixedDigits places q = pointed places whole fraction ∧ whole ≠ [] ∧
      fraction.length = places ∧ (∀ c ∈ whole ++ fraction, c.isDigit) ∧
      Nat.ofDigitChars 10 (whole ++ fraction) 0
        = nearest (q * ((Nat.pow 10 places : Nat) : Rat)) ∧
      (whole = ['0'] ∨ whole.head? ≠ some '0') := by
  generalize hrounded : nearest (q * ((Nat.pow 10 places : Nat) : Rat)) = rounded
  generalize hdigits : (Nat.toDigits 10 rounded).leftpad (places + 1) '0' = digits
  have hlong : places + 1 ≤ digits.length := by
    rw [← hdigits, List.length_leftpad]
    exact Nat.le_max_left ..
  refine ⟨digits.take (digits.length - places), digits.drop (digits.length - places), ?_, ?_, ?_,
    ?_, ?_, ?_⟩
  · simp only [fixedDigits, hrounded, hdigits, pointed]
    by_cases hplaces : places = 0
    · rw [if_pos hplaces, if_pos hplaces, hplaces, Nat.sub_zero, List.take_length]
    · rw [if_neg hplaces, if_neg hplaces]
  · rw [ne_eq, List.take_eq_nil_iff, not_or]
    exact ⟨by omega, List.ne_nil_of_length_pos (by omega)⟩
  · rw [List.length_drop]
    omega
  · rw [List.take_append_drop, ← hdigits]
    exact isDigit_leftpad (isDigit_toDigits rounded) _
  · rw [List.take_append_drop, ← hdigits, ofDigitChars_leftpad, Nat.ofDigitChars_ten_toDigits]
  · rw [← hdigits]
    exact take_leftpad (toDigits_eq_or_head? rounded) Nat.toDigits_ne_nil places

/-- **A finite number's text**: a sign if the number is below zero, then digits around a point, filled
up to the width and no further. -/
theorem Binary.fixed_eq {format : BinaryFormat} {x : Binary format} {negative : Bool}
    {magnitude : Rat} (h : x.datum = .finite negative magnitude) (places width : Nat) :
    ∃ whole fraction, (x.fixed places width).toList
        = (if x.isBelowZero then ['-'] else []) ++ pointed places whole fraction ∧
      whole ≠ [] ∧ fraction.length = places ∧ (∀ c ∈ whole ++ fraction, c.isDigit) ∧
      Nat.ofDigitChars 10 (whole ++ fraction) 0
        = nearest (magnitude * ((Nat.pow 10 places : Nat) : Rat)) ∧
      Filled width (pointed places whole fraction).length whole := by
  obtain ⟨whole, fraction, hfixed, hne, hplaces, hdigits, hspells, htight⟩ :=
    fixedDigits_eq places magnitude
  have hpad := leftpad_pointed places width whole fraction
  have hfilled := filled_replicate htight width (pointed places whole fraction).length
  rw [← List.length_leftpad, hpad] at hfilled
  generalize width - (pointed places whole fraction).length = zeros at hpad hfilled
  refine ⟨List.replicate zeros '0' ++ whole, fraction, ?_,
    List.append_ne_nil_of_right_ne_nil _ hne, hplaces, ?_, ?_, hfilled⟩
  · simp only [fixed, h, String.toList_ofList, hfixed, hpad]
  · intro c hc
    rw [List.append_assoc] at hc
    rcases List.mem_append.mp hc with hzero | hdigit
    · rw [List.eq_of_mem_replicate hzero]
      rfl
    · exact hdigits c hdigit
  · rw [List.append_assoc, Nat.ofDigitChars_append, Nat.ofDigitChars_replicate_zero, Nat.mul_zero,
      hspells]

/-! ## Reading -/

namespace Numeral

section Digits

variable {cs : List Char} (h : ∀ c ∈ cs, c.isDigit)

include h

theorem takeWhile_isDigit : cs.takeWhile Char.isDigit = cs := by
  have htake : (cs ++ []).takeWhile Char.isDigit = cs ++ [] := List.takeWhile_append_of_pos h
  rwa [List.append_nil] at htake

theorem dropWhile_isDigit : cs.dropWhile Char.isDigit = [] := by
  have hdrop : (cs ++ []).dropWhile Char.isDigit = [] := List.dropWhile_append_of_pos h
  rwa [List.append_nil] at hdrop

end Digits

/-- **Digits around a point are read as the numeral with these digits.** -/
theorem decimal?_pointed (negative : Bool) {places : Nat} {whole fraction : List Char}
    (hne : whole ≠ []) (hplaces : fraction.length = places)
    (hdigits : ∀ c ∈ whole ++ fraction, c.isDigit) :
    decimal? negative (pointed places whole fraction)
      = some (.finite negative (Nat.ofDigitChars 10 (whole ++ fraction) 0) (-(places : Int))) := by
  obtain ⟨hwhole, hfraction⟩ := List.forall_mem_append.mp hdigits
  rw [pointed]
  split
  · next hzero =>
    have hnil : fraction = [] := List.eq_nil_of_length_eq_zero (hplaces.trans hzero)
    subst hnil
    simp only [decimal?, takeWhile_isDigit hwhole, dropWhile_isDigit hwhole, hne, false_and,
      if_false, exponent?, Option.map_some, List.length_nil, hzero]
    rfl
  · have hpoint : ¬ Char.isDigit '.' := by decide
    have htake : (whole ++ '.' :: fraction).takeWhile Char.isDigit = whole := by
      rw [List.takeWhile_append_of_pos hwhole, List.takeWhile_cons_of_neg hpoint, List.append_nil]
    have hdrop : (whole ++ '.' :: fraction).dropWhile Char.isDigit = '.' :: fraction := by
      rw [List.dropWhile_append_of_pos hwhole, List.dropWhile_cons_of_neg hpoint]
    simp only [decimal?, htake, hdrop, takeWhile_isDigit hfraction, dropWhile_isDigit hfraction,
      hne, false_and, if_false, exponent?, Option.map_some, hplaces, Int.zero_sub]

theorem toLower_of_isDigit {c : Char} (h : c.isDigit) : c.toLower = c := by
  rw [Char.isDigit, Bool.and_eq_true, decide_eq_true_eq, decide_eq_true_eq] at h
  have hbelow : ¬ (c.val ≥ 'A'.val ∧ c.val ≤ 'Z'.val) := by
    rintro ⟨hupper, -⟩
    exact absurd (UInt32.le_trans hupper h.2) (by decide)
  exact dif_neg hbelow

theorem splitSign_of_isDigit {c : Char} (h : c.isDigit) (cs : List Char) :
    splitSign (c :: cs) = (false, c :: cs) := by
  rw [splitSign]
  · intro cs' heq
    rw [(List.cons.inj heq).1] at h
    cases h
  · intro cs' heq
    rw [(List.cons.inj heq).1] at h
    cases h

/-- A text that starts with a digit, or with a minus sign and a digit, is read as a decimal. -/
theorem ofText?_of_isDigit {c : Char} (h : c.isDigit) (negative : Bool) (cs : List Char) :
    Numeral.ofText? ((if negative then ['-'] else []) ++ c :: cs)
      = decimal? negative (c :: cs) := by
  have hsplit : splitSign ((if negative then ['-'] else []) ++ c :: cs) = (negative, c :: cs) := by
    cases negative with
    | true => rfl
    | false => exact splitSign_of_isDigit h cs
  have hword (c' : Char) (word : List Char) (hc' : c'.isDigit = false) :
      (c :: cs).map Char.toLower ≠ c' :: word := by
    intro heq
    rw [List.map_cons, toLower_of_isDigit h] at heq
    rw [(List.cons.inj heq).1, hc'] at h
    cases h
  simp only [Numeral.ofText?, hsplit, hword 'n' _ rfl, hword 'i' _ rfl, or_self, if_false]

/-- **A finite number's text is read as the numeral that was printed.** -/
theorem ofText?_fixed {format : BinaryFormat} {x : Binary format} {negative : Bool}
    {magnitude : Rat} (h : x.datum = .finite negative magnitude) (places width : Nat) :
    Numeral.ofText? (x.fixed places width).toList
      = some (.finite x.isBelowZero (nearest (magnitude * ((Nat.pow 10 places : Nat) : Rat)))
          (-(places : Int))) := by
  obtain ⟨whole, fraction, htext, hne, hplaces, hdigits, hspells, -⟩ := x.fixed_eq h places width
  have hread := decimal?_pointed x.isBelowZero hne hplaces hdigits
  obtain ⟨c, cs, rfl⟩ := List.exists_cons_of_ne_nil hne
  rw [hspells, pointed_cons] at hread
  rw [htext, pointed_cons, ofText?_of_isDigit (hdigits c List.mem_cons_self)]
  exact hread

end Numeral

namespace Binary

variable {format : BinaryFormat} {x : Binary format} {negative : Bool} {magnitude : Rat}

/-- **A finite number's text reads as the pattern nearest to what was printed.** -/
theorem ofText?_fixed (h : x.datum = .finite negative magnitude) (places width : Nat) :
    ofText? format (x.fixed places width)
      = some (Numeral.toBinary format (.finite x.isBelowZero
          (nearest (magnitude * ((Nat.pow 10 places : Nat) : Rat))) (-(places : Int)))) := by
  rw [ofText?, Numeral.ofText?_fixed h]
  rfl

theorem fixed_ne_empty (h : x.datum = .finite negative magnitude) (places width : Nat) :
    x.fixed places width ≠ "" := by
  obtain ⟨whole, fraction, htext, hne, -⟩ := x.fixed_eq h places width
  obtain ⟨c, cs, rfl⟩ := List.exists_cons_of_ne_nil hne
  rw [ne_eq, ← String.toList_eq_nil_iff, htext, pointed_cons]
  exact List.append_ne_nil_of_right_ne_nil _ (List.cons_ne_nil _ _)

/-- A finite number's text holds nothing but digits, a sign and a point. -/
theorem mem_fixed (h : x.datum = .finite negative magnitude) {places width : Nat} {c : Char}
    (hc : c ∈ (x.fixed places width).toList) : c = '-' ∨ c = '.' ∨ c.isDigit := by
  obtain ⟨whole, fraction, htext, -, -, hdigits, -⟩ := x.fixed_eq h places width
  obtain ⟨hwhole, hfraction⟩ := List.forall_mem_append.mp hdigits
  rw [htext] at hc
  rcases List.mem_append.mp hc with hsign | hbody
  · left
    split at hsign
    · exact List.mem_singleton.mp hsign
    · cases hsign
  · right
    rw [pointed] at hbody
    split at hbody
    · exact .inr (hwhole c hbody)
    · rcases List.mem_append.mp hbody with hbody | hbody
      · exact .inr (hwhole c hbody)
      · rcases List.mem_cons.mp hbody with hpoint | hbody
        · exact .inl hpoint
        · exact .inr (hfraction c hbody)

end Binary

end VehicleLink
