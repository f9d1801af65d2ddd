import VehicleLink.Text.Utf8

/-!
# Proofs/Text/Utf8 — spelling and reading a text

`text?` reads back exactly what `utf8` spells (`text?_eq_some_iff`).  A byte below `0x80` occurs
only as the spelling of its own character (`mem_utf8_iff`), so a search for such a byte among the
bytes is a search for its character in the text.
-/

namespace VehicleLink

/-! ## Reading back -/

theorem utf8_eq_iff {text : String} {bytes : List UInt8} :
    utf8 text = bytes ↔ text.toByteArray = bytes.toByteArray := by
  rw [utf8, String.toUTF8_eq_toByteArray]
  constructor
  · rintro rfl
    exact ByteArray.ext (by simp)
  · intro h
    rw [h, List.toList_data_toByteArray]

/-- **The bytes read as a text are those that spell it**, and no others. -/
theorem text?_eq_some_iff {bytes : List UInt8} {text : String} :
    text? bytes = some text ↔ utf8 text = bytes := by
  rw [utf8_eq_iff, text?, String.fromUTF8?]
  constructor
  · intro h
    split at h
    · rw [← Option.some.inj h]
      rfl
    · cases h
  · intro h
    have hvalid : bytes.toByteArray.IsValidUTF8 := h ▸ text.isValidUTF8
    rw [dif_pos hvalid]
    exact congrArg some (String.toByteArray_inj.mp h.symm)

@[simp] theorem text?_utf8 (text : String) : text? (utf8 text) = some text :=
  text?_eq_some_iff.mpr rfl

@[simp] theorem utf8_empty : utf8 "" = [] := rfl

@[simp] theorem utf8_append (text text' : String) :
    utf8 (text ++ text') = utf8 text ++ utf8 text' := by
  simp [utf8]

theorem utf8_eq_flatMap (text : String) :
    utf8 text = text.toList.flatMap String.utf8EncodeChar := by
  rw [← utf8_ofList, String.ofList_toList]

/-! ## One byte -/

/-- A byte below `0x80` spells only its own character, and alone. -/
theorem mem_utf8EncodeChar_iff {c : Char} {byte : UInt8} (hbyte : byte.toNat < 0x80) :
    byte ∈ String.utf8EncodeChar c ↔ c.toNat = byte.toNat := by
  have hchar : c.val.toNat = c.toNat := rfl
  -- Every byte of a longer spelling has its highest bit set.
  have hhigh (n : Nat) (hlow : 0x80 ≤ n) (hlt : n < 0x100) : byte ≠ UInt8.ofNat n := by
    rintro rfl
    rw [UInt8.toNat_ofNat_of_lt' hlt] at hbyte
    omega
  rw [String.utf8EncodeChar, hchar]
  split
  · next h =>
    rw [List.mem_singleton]
    constructor
    · rintro rfl
      rw [UInt8.toNat_ofNat_of_lt' (Nat.lt_of_le_of_lt h (by decide))]
    · intro h
      rw [h, UInt8.ofNat_toNat]
  · have hne : c.toNat ≠ byte.toNat := by omega
    simp only [hne, iff_false]
    split
    · simp only [List.mem_cons, List.not_mem_nil, or_false, not_or]
      exact ⟨hhigh _ (by omega) (by omega), hhigh _ (by omega) (by omega)⟩
    · split <;> simp only [List.mem_cons, List.not_mem_nil, or_false, not_or]
      · exact ⟨hhigh _ (by omega) (by omega), hhigh _ (by omega) (by omega),
          hhigh _ (by omega) (by omega)⟩
      · exact ⟨hhigh _ (by omega) (by omega), hhigh _ (by omega) (by omega),
          hhigh _ (by omega) (by omega), hhigh _ (by omega) (by omega)⟩

/-- **A byte below `0x80` is found among the bytes where its character is found in the text.** -/
theorem mem_utf8_iff {text : String} {c : Char} (hc : c.toNat < 0x80) :
    UInt8.ofNat c.toNat ∈ utf8 text ↔ c ∈ text.toList := by
  have hbyte : (UInt8.ofNat c.toNat).toNat = c.toNat := by
    exact UInt8.toNat_ofNat_of_lt' (Nat.lt_trans hc (by decide))
  rw [utf8_eq_flatMap, List.mem_flatMap]
  constructor
  · rintro ⟨c', hmem, hspelled⟩
    rw [mem_utf8EncodeChar_iff (by omega), hbyte] at hspelled
    rwa [← Char.toNat_inj.mp hspelled]
  · intro hmem
    exact ⟨c, hmem, (mem_utf8EncodeChar_iff (by omega)).mpr hbyte.symm⟩

end VehicleLink
