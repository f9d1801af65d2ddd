import VehicleLink.Message.Field

/-!
# Proofs/Message/Layout — records as bytes and back

The bytes of a record are as many as its layout has (`length_encodeRow`), and reading them gives the
record back, whatever follows (`decodeRow_encodeRow_append`).  Reading counts what is missing as
zero, so zeros at the end of a payload can be left out (`decodeRow_append_zeros`).
-/

namespace VehicleLink

/-! ## One element, one series -/

namespace Primitive

theorem length_encode (p : Primitive) (v : p.Value) : (p.encode v).length = p.size :=
  length_littleEndian _ _

theorem length_flatMap_encode (p : Primitive) (values : List p.Value) :
    (values.flatMap p.encode).length = p.size * values.length := by
  induction values with
  | nil => rfl
  | cons v values ih =>
    rw [List.flatMap_cons, List.length_append, ih, length_encode, List.length_cons, Nat.mul_succ,
      Nat.add_comm]

theorem length_encodeSeries (p : Primitive) {count : Nat} (series : p.Series count) :
    (p.encodeSeries series).length = p.size * count := by
  rw [encodeSeries, length_flatMap_encode, Vector.length_toList]

/-- The elements of a series are read back one after the other. -/
theorem decodeList_flatMap_encode (p : Primitive) (values : List p.Value) :
    p.decodeList values.length (values.flatMap p.encode) = values := by
  induction values with
  | nil => rfl
  | cons v values ih =>
    have hlength := p.length_encode v
    rw [List.length_cons, decodeList, List.flatMap_cons, List.take_left' hlength,
      List.drop_left' hlength, decode_encode, ih]

theorem decodeSeries_encodeSeries (p : Primitive) {count : Nat} (series : p.Series count) :
    p.decodeSeries count (p.encodeSeries series) = series := by
  have hread := p.decodeList_flatMap_encode series.toList
  rw [Vector.length_toList] at hread
  apply Vector.toList_inj.mp
  exact hread

end Primitive

/-! ## One field -/

namespace Field

theorem length_encode (field : Field) (value : field.Value) :
    (field.encode value).length = field.size := by
  obtain ⟨name, p, _ | n⟩ := field
  · exact (p.length_encode value).trans (Nat.mul_one _).symm
  · exact p.length_encodeSeries value

/-- **A field's value is read back from its bytes.** -/
theorem decode_encode (field : Field) (value : field.Value) :
    field.decode (field.encode value) = value := by
  obtain ⟨name, p, _ | n⟩ := field
  · exact p.decode_encode value
  · exact p.decodeSeries_encodeSeries value

end Field

/-! ## All fields -/

/-- **The bytes of a record are as many as its layout has.** -/
theorem length_encodeRow {fields : List Field} (row : Row Field.Value fields) :
    (encodeRow row).length = layoutSize fields := by
  induction row with
  | nil => rfl
  | @cons field fields value row ih =>
    rw [encodeRow] at ih ⊢
    rw [Row.toList, List.flatten_cons, List.length_append, ih, field.length_encode, layoutSize]

theorem encodeRow_cons {field : Field} {fields : List Field} (value : field.Value)
    (row : Row Field.Value fields) :
    encodeRow (.cons value row) = field.encode value ++ encodeRow row := rfl

/-- **A record is read back from its bytes**, whatever follows them. -/
theorem decodeRow_encodeRow_append {fields : List Field} (row : Row Field.Value fields)
    (rest : List UInt8) : decodeRow ⟨encodeRow row ++ rest⟩ fields = row := by
  induction row with
  | nil => rfl
  | @cons field fields value row ih =>
    have hlength := field.length_encode value
    have hpad : (field.encode value).rightpad field.size 0 = field.encode value := by
      rw [List.rightpad, hlength, Nat.sub_self, List.replicate_zero, List.append_nil]
    rw [encodeRow_cons, List.append_assoc, decodeRow, PayloadReader.take]
    simp only [List.take_left' hlength, List.drop_left' hlength, hpad, field.decode_encode, ih]

/-- Cutting a payload to a length and filling it up sees the same whether or not zeros follow. -/
theorem rightpad_take_append_zeros (bytes : List UInt8) (count length : Nat) :
    ((bytes ++ List.replicate count 0).take length).rightpad length 0
      = (bytes.take length).rightpad length 0 := by
  rw [List.take_append, List.take_replicate, List.rightpad, List.rightpad, List.append_assoc,
    List.replicate_append_replicate, List.length_append, List.length_take, List.length_replicate]
  congr 2
  omega

/-- **Zeros at the end of a payload can be left out.** -/
theorem decodeRow_append_zeros (bytes : List UInt8) (count : Nat) (fields : List Field) :
    decodeRow ⟨bytes ++ List.replicate count 0⟩ fields = decodeRow ⟨bytes⟩ fields := by
  induction fields generalizing bytes count with
  | nil => rfl
  | cons field fields ih =>
    simp only [decodeRow, PayloadReader.take, rightpad_take_append_zeros, List.drop_append,
      List.drop_replicate, ih]

end VehicleLink
