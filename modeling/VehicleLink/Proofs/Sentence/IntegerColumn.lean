import VehicleLink.Proofs.Number.Filled
import VehicleLink.Proofs.Sentence.Binding

/-!
# Proofs/Sentence/IntegerColumn — whole numbers in columns

An integer column is rendered as the shortest digits of the number, filled with zeros to the width,
behind a minus sign if the number is below zero.  What it reads is a small grammar (`Spells`): a sign
that the type may have, digits, and a number in the type's range.  Nothing else is read, and every
member of the range is read back (`integer_columns_exact`).
-/

namespace VehicleLink

/-! ## The grammar -/

/-- One digit or more. -/
structure IsNumeral (digits : List Char) : Prop where
  ne_nil : digits ≠ []
  isDigit : ∀ c ∈ digits, c.isDigit

theorem isNumeral_iff {digits : List Char} :
    IsNumeral digits ↔ digits ≠ [] ∧ digits.all Char.isDigit :=
  ⟨fun h => ⟨h.ne_nil, List.all_eq_true.mpr h.isDigit⟩,
    fun h => ⟨h.1, List.all_eq_true.mp h.2⟩⟩

theorem isNumeral_leftpad (n width : Nat) :
    IsNumeral ((Nat.toDigits 10 n).leftpad width '0') :=
  ⟨leftpad_ne_nil Nat.toDigits_ne_nil width, isDigit_leftpad (isDigit_toDigits n) width⟩

namespace IntegerType

/-- **The texts of a whole number.**  A plus sign may lead for every type, a minus sign only for the
signed ones. -/
inductive Spells (type : IntegerType) : List Char → Int → Prop where
  | bare {digits : List Char} (h : IsNumeral digits) :
    Spells type digits (Nat.ofDigitChars 10 digits 0)
  | plus {digits : List Char} (h : IsNumeral digits) :
    Spells type ('+' :: digits) (Nat.ofDigitChars 10 digits 0)
  | minus {digits : List Char} (hsigned : type.signed) (h : IsNumeral digits) :
    Spells type ('-' :: digits) (-(Nat.ofDigitChars 10 digits 0 : Int))

variable (type : IntegerType)

/-- The three ways a text can start. -/
theorem splitSign_cases (cs : List Char) :
    (∃ digits, cs = '+' :: digits ∧ type.splitSign cs = (false, digits)) ∨
    (∃ digits, cs = '-' :: digits ∧ type.signed ∧ type.splitSign cs = (true, digits)) ∨
    type.splitSign cs = (false, cs) := by
  rw [splitSign.eq_def]
  split
  · next digits => exact .inl ⟨digits, rfl, rfl⟩
  · next digits =>
    split
    · next hsigned => exact .inr (.inl ⟨digits, rfl, hsigned, rfl⟩)
    · exact .inr (.inr rfl)
  · exact .inr (.inr rfl)

theorem ofInt?_eq_some_iff {i : Int} {v : type.Value} : type.ofInt? i = some v ↔ i = v.val := by
  rw [ofInt?]
  constructor
  · intro h
    split at h
    · rw [← Option.some.inj h]
    · cases h
  · rintro rfl
    exact dif_pos v.property

/-- A text is spelled as it is split: digits behind the sign, and with it the number. -/
theorem spells_iff {cs : List Char} {i : Int} :
    type.Spells cs i ↔ IsNumeral (type.splitSign cs).2 ∧
      (if (type.splitSign cs).1 then -(Nat.ofDigitChars 10 (type.splitSign cs).2 0 : Int)
        else Nat.ofDigitChars 10 (type.splitSign cs).2 0) = i := by
  constructor
  · rintro (hdigits | hdigits | ⟨hsigned, hdigits⟩)
    · rw [type.splitSign_of_isDigit hdigits.isDigit]
      exact ⟨hdigits, rfl⟩
    · exact ⟨hdigits, rfl⟩
    · rw [splitSign, if_pos hsigned]
      exact ⟨hdigits, rfl⟩
  · rintro ⟨hdigits, rfl⟩
    rcases type.splitSign_cases cs with ⟨digits, rfl, hsplit⟩ | ⟨digits, rfl, hsigned, hsplit⟩ |
      hsplit
    · rw [hsplit] at hdigits ⊢
      exact .plus hdigits
    · rw [hsplit] at hdigits ⊢
      exact .minus hsigned hdigits
    · rw [hsplit] at hdigits ⊢
      exact .bare hdigits

/-- **What is read is what is spelled**, if it is in the type's range. -/
theorem ofText?_eq_some_iff {text : String} {v : type.Value} :
    type.ofText? text = some v ↔ type.Spells text.toList v.val := by
  rw [spells_iff, isNumeral_iff, ofText?]
  generalize type.splitSign text.toList = split
  obtain ⟨negative, digits⟩ := split
  simp only
  split
  · next hdigits => rw [ofInt?_eq_some_iff, and_iff_right hdigits]
  · next hdigits => exact iff_of_false (fun h => by cases h) fun h => hdigits h.1

theorem Spells.ne_nil {type : IntegerType} {cs : List Char} {i : Int} (h : type.Spells cs i) :
    cs ≠ [] := by
  rintro rfl
  obtain ⟨hdigits, -⟩ := type.spells_iff.mp h
  exact hdigits.ne_nil rfl

/-- A text is a sign and digits, filled up to the width and no further. -/
theorem toList_text (width : Nat) (i : Int) :
    ∃ digits : List Char, (text width i).toList = (if i < 0 then ['-'] else []) ++ digits ∧
      IsNumeral digits ∧ Nat.ofDigitChars 10 digits 0 = i.natAbs ∧
      Filled width digits.length digits := by
  refine ⟨(Nat.toDigits 10 i.natAbs).leftpad width '0', ?_, isNumeral_leftpad _ _, ?_, ?_⟩
  · rw [text, String.toList_ofList]
  · rw [ofDigitChars_leftpad, Nat.ofDigitChars_ten_toDigits]
  · rw [List.length_leftpad]
    exact filled_replicate (toDigits_eq_or_head? _) width _

end IntegerType

/-! ## The column -/

/-- **Integer columns are exact.**

For every type of whole numbers and every width: a member is rendered as a minus sign exactly if it
is below zero, then digits that spell its size, filled with zeros up to the width and no further; and
this text is read back as the member.  A token is read as absent exactly if it is empty, and as a
member exactly if it spells the member: an optional sign that the type may have, then digits.  Every
other token is refused as malformed. -/
theorem integer_columns_exact (type : IntegerType) :
    (∀ (places width : Nat) (v : type.Value),
      let text := (ColumnKind.integer type).render places width v
      (∃ digits : List Char, text.toList = (if v.val < 0 then ['-'] else []) ++ digits ∧
        IsNumeral digits ∧ Nat.ofDigitChars 10 digits 0 = v.val.natAbs ∧
        Filled width digits.length digits) ∧
      (ColumnKind.integer type).parse text = .ok (some v)) ∧
    ∀ token : String,
      ((ColumnKind.integer type).parse token = .ok none ↔ token = "") ∧
      (∀ v : type.Value, (ColumnKind.integer type).parse token = .ok (some v)
        ↔ type.Spells token.toList v.val) ∧
      ((ColumnKind.integer type).parse token = .error .malformed
        ↔ token ≠ "" ∧ ∀ v : type.Value, ¬ type.Spells token.toList v.val) ∧
      ∀ e, (ColumnKind.integer type).parse token = .error e → e = .malformed := by
  have hread (token : String) (v : type.Value) :
      (ColumnKind.integer type).parse token = .ok (some v) ↔ type.Spells token.toList v.val := by
    refine ColumnKind.parse_eq_some_iff.trans ⟨fun h => type.ofText?_eq_some_iff.mp h.2,
      fun h => ⟨?_, type.ofText?_eq_some_iff.mpr h⟩⟩
    rintro rfl
    exact h.ne_nil rfl
  refine ⟨fun places width v => ⟨IntegerType.toList_text width v.val, ?_⟩, fun token =>
    ⟨ColumnKind.parse_eq_none_iff, hread token, ?_, fun _ => ColumnKind.eq_malformed_of_parse⟩⟩
  · exact ColumnKind.parse_eq_some_iff.mpr
      ⟨IntegerType.text_ne_empty width v.val, type.ofText?_text width v⟩
  · refine ColumnKind.parse_eq_malformed_iff.trans (and_congr_right' ?_)
    refine Option.eq_none_iff_forall_ne_some.trans (forall_congr' fun v => not_congr ?_)
    exact type.ofText?_eq_some_iff

end VehicleLink
