import Mathlib.Algebra.Group.Nat.Defs
import VehicleLink.Number.Integer

/-!
# Proofs/Number/Integer — whole numbers read back from their text

Filling digits with zeros from the left changes neither that they are digits nor the number they
spell (`ofDigitChars_leftpad`).  A member of an integer type is therefore read back from its text,
whatever the width (`IntegerType.ofText?_text`).

How many digits there are bounds the number from above, and from below if the first is no zero
(`ofDigitChars_lt`, `le_ofDigitChars`).
-/

namespace VehicleLink

/-! ## Digits -/

theorem isDigit_leftpad {cs : List Char} (h : ∀ c ∈ cs, c.isDigit) (width : Nat) :
    ∀ c ∈ cs.leftpad width '0', c.isDigit := by
  intro c hc
  rcases List.mem_append.mp hc with hzero | hdigit
  · rw [List.eq_of_mem_replicate hzero]
    rfl
  · exact h c hdigit

theorem leftpad_ne_nil {cs : List Char} (h : cs ≠ []) (width : Nat) :
    cs.leftpad width '0' ≠ [] :=
  List.append_ne_nil_of_right_ne_nil _ h

/-- **Leading zeros do not change the number that digits spell.** -/
theorem ofDigitChars_leftpad (cs : List Char) (width : Nat) :
    Nat.ofDigitChars 10 (cs.leftpad width '0') 0 = Nat.ofDigitChars 10 cs 0 := by
  rw [List.leftpad, Nat.ofDigitChars_append, Nat.ofDigitChars_replicate_zero, Nat.mul_zero]

theorem ofDigitChars_append_zero (front back : List Char) :
    Nat.ofDigitChars 10 (front ++ back) 0
      = 10 ^ back.length * Nat.ofDigitChars 10 front 0 + Nat.ofDigitChars 10 back 0 := by
  rw [Nat.ofDigitChars_append, Nat.ofDigitChars_eq_ofDigitChars_zero]

/-- A first digit counts as often as there are numbers of the other digits. -/
theorem ofDigitChars_cons_zero (c : Char) (cs : List Char) : Nat.ofDigitChars 10 (c :: cs) 0
    = 10 ^ cs.length * (c.toNat - '0'.toNat) + Nat.ofDigitChars 10 cs 0 := by
  rw [Nat.ofDigitChars_cons, Nat.ofDigitChars_eq_ofDigitChars_zero, Nat.mul_zero, Nat.zero_add]

/-- **So many digits spell no number with more.** -/
theorem ofDigitChars_lt {cs : List Char} (h : ∀ c ∈ cs, c.isDigit) :
    Nat.ofDigitChars 10 cs 0 < 10 ^ cs.length := by
  induction cs with
  | nil => exact Nat.one_pos
  | cons c cs ih =>
    obtain ⟨hc, hcs⟩ := List.forall_mem_cons.mp h
    have hdigit : c.toNat - '0'.toNat + 1 ≤ 10 := by
      have hle : c.toNat ≤ 57 := (Char.isDigit_iff_toNat.mp hc).2
      have hzero : '0'.toNat = 48 := rfl
      omega
    have hscaled := Nat.mul_le_mul_left (10 ^ cs.length) hdigit
    have hrest := ih hcs
    rw [ofDigitChars_cons_zero, List.length_cons, Nat.pow_succ]
    rw [Nat.mul_add, Nat.mul_one] at hscaled
    omega

/-- **Digits with no zero in front spell a number with as many.** -/
theorem le_ofDigitChars {c : Char} (hc : c.isDigit) (hne : c ≠ '0') (cs : List Char) :
    10 ^ cs.length ≤ Nat.ofDigitChars 10 (c :: cs) 0 := by
  have hdigit : 1 ≤ c.toNat - '0'.toNat := by
    have hle : '0'.toNat ≤ c.toNat := (Char.isDigit_iff_toNat.mp hc).1
    have hne' : c.toNat ≠ '0'.toNat := fun heq => hne (Char.toNat_inj.mp heq)
    omega
  rw [ofDigitChars_cons_zero]
  exact Nat.le_trans (Nat.le_mul_of_pos_right _ hdigit) (Nat.le_add_right ..)

/-- Digits are split where a power of ten splits the number that they spell. -/
theorem ofDigitChars_append_eq_iff {front back : List Char} (h : ∀ c ∈ back, c.isDigit) {m n : Nat}
    (hn : n < 10 ^ back.length) :
    Nat.ofDigitChars 10 (front ++ back) 0 = 10 ^ back.length * m + n
      ↔ Nat.ofDigitChars 10 front 0 = m ∧ Nat.ofDigitChars 10 back 0 = n := by
  have hback := ofDigitChars_lt h
  have hpos : 0 < 10 ^ back.length := Nat.pow_pos (by decide)
  rw [ofDigitChars_append_zero]
  generalize Nat.ofDigitChars 10 back 0 = low at hback ⊢
  constructor
  · intro heq
    have hdiv := congrArg (· / 10 ^ back.length) heq
    have hmod := congrArg (· % 10 ^ back.length) heq
    simp only [Nat.mul_add_div hpos, Nat.mul_add_mod, Nat.div_eq_of_lt hback, Nat.div_eq_of_lt hn,
      Nat.mod_eq_of_lt hback, Nat.mod_eq_of_lt hn, Nat.add_zero] at hdiv hmod
    exact ⟨hdiv, hmod⟩
  · rintro ⟨rfl, rfl⟩
    rfl

theorem isDigit_toDigits (n : Nat) : ∀ c ∈ Nat.toDigits 10 n, c.isDigit :=
  fun _ hc => Nat.isDigit_of_mem_toDigits (by decide) (by decide) hc

/-! ## Integers -/

namespace IntegerType

variable (type : IntegerType)

theorem splitSign_of_isDigit {cs : List Char} (h : ∀ c ∈ cs, c.isDigit) :
    type.splitSign cs = (false, cs) := by
  match cs, h with
  | [], _ => rfl
  | c :: cs, h =>
    have hplus : c ≠ '+' := by
      rintro rfl
      exact absurd (h '+' List.mem_cons_self) (by decide)
    have hminus : c ≠ '-' := by
      rintro rfl
      exact absurd (h '-' List.mem_cons_self) (by decide)
    rw [splitSign]
    · intro cs' heq
      exact hplus (List.cons.inj heq).1
    · intro cs' heq
      exact hminus (List.cons.inj heq).1

theorem signed_of_neg {v : type.Value} (h : v.val < 0) : type.signed := by
  by_cases hsigned : type.signed
  · exact hsigned
  · have hleast : type.least ≤ v.val := v.property.1
    have hzero : type.least = 0 := if_neg hsigned
    omega

/-- The sign of a text is found again, and the digits behind it. -/
theorem splitSign_text (width : Nat) (v : type.Value) :
    type.splitSign (text width v.val).toList
      = (decide (v.val < 0), (Nat.toDigits 10 v.val.natAbs).leftpad width '0') := by
  rw [text, String.toList_ofList]
  by_cases hneg : v.val < 0
  · rw [if_pos hneg, decide_eq_true hneg]
    exact if_pos (type.signed_of_neg hneg)
  · rw [if_neg hneg, decide_eq_false hneg]
    exact type.splitSign_of_isDigit (isDigit_leftpad (isDigit_toDigits _) width)

theorem text_ne_empty (width : Nat) (i : Int) : text width i ≠ "" := by
  rw [text, ne_eq, String.ofList_eq_empty_iff]
  exact List.append_ne_nil_of_right_ne_nil _ (leftpad_ne_nil Nat.toDigits_ne_nil width)

/-- **A member is read back from its text.** -/
theorem ofText?_text (width : Nat) (v : type.Value) : type.ofText? (text width v.val) = some v := by
  have hdigits : ((Nat.toDigits 10 v.val.natAbs).leftpad width '0') ≠ [] ∧
      ((Nat.toDigits 10 v.val.natAbs).leftpad width '0').all Char.isDigit :=
    ⟨leftpad_ne_nil Nat.toDigits_ne_nil width,
      List.all_eq_true.mpr (isDigit_leftpad (isDigit_toDigits _) width)⟩
  have hint : (if decide (v.val < 0) then -(v.val.natAbs : Int) else v.val.natAbs) = v.val := by
    by_cases hneg : v.val < 0
    · rw [if_pos (decide_eq_true hneg)]
      omega
    · rw [if_neg (by simpa using hneg)]
      omega
  rw [ofText?, splitSign_text]
  simp only [if_pos hdigits, ofDigitChars_leftpad, Nat.ofDigitChars_ten_toDigits, hint]
  exact dif_pos v.property

end IntegerType

end VehicleLink
