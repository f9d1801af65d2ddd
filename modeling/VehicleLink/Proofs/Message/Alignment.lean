import Mathlib.Algebra.Group.Nat.Defs
import Mathlib.Data.List.Chain
import VehicleLink.Message.Catalogue
import VehicleLink.Proofs.Message.Layout

/-!
# Proofs/Message/Alignment — fields in wire order are aligned

`isWireOrdered` compares neighbours only, yet it puts all fields in the order of their element sizes
(`isWireOrdered_iff_pairwise`).  Sizes are powers of two, so of two fields in this order the elements
of the second fit those of the first, and whatever comes before a field is a whole number of its
elements (`size_dvd_layoutSize`).  No padding is needed for a field to lie at a multiple of its element
size (`wire_order_aligns`).
-/

namespace VehicleLink

/-! ## The order of all fields -/

theorem isWireOrdered_iff_isChain (fields : List Field) :
    isWireOrdered fields ↔ fields.IsChain fun a b => b.primitive.size ≤ a.primitive.size := by
  fun_induction isWireOrdered fields with
  | case1 a b fields ih =>
    rw [Bool.and_eq_true, decide_eq_true_eq, ih, List.isChain_cons_cons]
  | case2 fields hshort =>
    match fields, hshort with
    | [], _ => exact iff_of_true rfl .nil
    | [_], _ => exact iff_of_true rfl (.singleton _)
    | a :: b :: rest, hshort => exact absurd rfl (hshort a b rest)

/-- **In wire order no field has larger elements than any field before it.** -/
theorem isWireOrdered_iff_pairwise (fields : List Field) :
    isWireOrdered fields ↔ fields.Pairwise fun a b => b.primitive.size ≤ a.primitive.size := by
  have htrans : IsTrans Field fun a b => b.primitive.size ≤ a.primitive.size :=
    ⟨fun _ _ _ hab hbc => hbc.trans hab⟩
  rw [isWireOrdered_iff_isChain, List.isChain_iff_pairwise]

/-! ## Sizes -/

theorem Primitive.exists_size_eq (p : Primitive) : ∃ power ≤ 3, p.size = 2 ^ power := by
  cases p with
  | uint8 | int8 | char => exact ⟨0, by decide, rfl⟩
  | uint16 | int16 => exact ⟨1, by decide, rfl⟩
  | uint32 | int32 | float => exact ⟨2, by decide, rfl⟩
  | uint64 | int64 | double => exact ⟨3, by decide, rfl⟩

/-- **Smaller elements fit larger ones.** -/
theorem Primitive.size_dvd_size {p p' : Primitive} (h : p.size ≤ p'.size) : p.size ∣ p'.size := by
  obtain ⟨power, -, hpower⟩ := p.exists_size_eq
  obtain ⟨power', -, hpower'⟩ := p'.exists_size_eq
  rw [hpower, hpower'] at h ⊢
  exact Nat.pow_dvd_pow 2 ((Nat.pow_le_pow_iff_right (by decide)).mp h)

theorem Primitive.size_dvd_two_pow (p : Primitive) {bits : Nat} (h : 3 ≤ bits) :
    p.size ∣ 2 ^ bits := by
  obtain ⟨power, hle, hpower⟩ := p.exists_size_eq
  rw [hpower]
  exact Nat.pow_dvd_pow 2 (hle.trans h)

/-- What comes before a field is a whole number of its elements, if none of it has smaller ones. -/
theorem size_dvd_layoutSize {field : Field} {before : List Field}
    (h : ∀ other ∈ before, field.primitive.size ≤ other.primitive.size) :
    field.primitive.size ∣ layoutSize before := by
  induction before with
  | nil => exact Nat.dvd_zero _
  | cons other before ih =>
    obtain ⟨hother, hbefore⟩ := List.forall_mem_cons.mp h
    have hsize : field.primitive.size ∣ other.size :=
      Nat.dvd_trans (Primitive.size_dvd_size hother) (Nat.dvd_mul_right ..)
    exact Nat.dvd_add hsize (ih hbefore)

/-! ## Offsets -/

/-- A place splits its list into what comes before it, its element, and what comes after it. -/
theorem Slot.exists_eq_append {α : Type} {a : α} {as : List α} (slot : Slot a as) :
    ∃ before after, as = before ++ a :: after ∧ as.take slot.index = before := by
  induction slot with
  | @here as => exact ⟨[], as, rfl, rfl⟩
  | @there b as slot ih =>
    obtain ⟨before, after, hsplit, htake⟩ := ih
    exact ⟨b :: before, after, congrArg (b :: ·) hsplit, congrArg (b :: ·) htake⟩

/-- **A field is written behind the bytes of those before it.** -/
theorem exists_encodeRow_eq {fields : List Field} (row : Row Field.Value fields) {field : Field}
    (slot : Slot field fields) :
    ∃ before after, before.length = layoutSize (fields.take slot.index) ∧
      encodeRow row = before ++ (field.encode (row.get slot) ++ after) := by
  induction slot with
  | here =>
    cases row with
    | cons value rest => exact ⟨[], encodeRow rest, rfl, encodeRow_cons value rest⟩
  | @there first fields slot ih =>
    cases row with
    | cons value rest =>
      obtain ⟨before, after, hlength, hrest⟩ := ih rest
      refine ⟨first.encode value ++ before, after, ?_, ?_⟩
      · rw [List.length_append, first.length_encode, hlength, Slot.index, List.take_succ_cons,
          layoutSize]
      · rw [encodeRow_cons, hrest, List.append_assoc]
        rfl

/-- **Fields in wire order are aligned.**

The check of neighbours succeeds exactly if no field has larger elements than any field before it.
Then the offset of each field, which is the size of those before it and the place where its value is
written, is a multiple of its element size.  It stays one where offsets are counted in words of
three bits or more, and wrap. -/
theorem wire_order_aligns (fields : List Field) :
    (isWireOrdered fields ↔ ∀ i j : Fin fields.length, i < j →
      (fields.get j).primitive.size ≤ (fields.get i).primitive.size) ∧
    (isWireOrdered fields → ∀ (field : Field) (slot : Slot field fields),
      field.primitive.size ∣ layoutSize (fields.take slot.index) ∧
        ∀ bits, 3 ≤ bits →
          field.primitive.size ∣ layoutSize (fields.take slot.index) % 2 ^ bits) ∧
    ∀ (row : Row Field.Value fields) (field : Field) (slot : Slot field fields),
      ∃ before after, before.length = layoutSize (fields.take slot.index) ∧
        encodeRow row = before ++ (field.encode (row.get slot) ++ after) := by
  refine ⟨?_, fun hordered field slot => ?_, fun row field slot => exists_encodeRow_eq row slot⟩
  · rw [isWireOrdered_iff_pairwise, List.pairwise_iff_get]
  · obtain ⟨before, after, hsplit, htake⟩ := slot.exists_eq_append
    rw [isWireOrdered_iff_pairwise, hsplit] at hordered
    have hbefore : ∀ other ∈ before, field.primitive.size ≤ other.primitive.size :=
      fun other hother => (List.pairwise_append.mp hordered).2.2 other hother field List.mem_cons_self
    rw [htake]
    have haligned := size_dvd_layoutSize hbefore
    exact ⟨haligned, fun bits hbits =>
      (Nat.dvd_mod_iff (field.primitive.size_dvd_two_pow hbits)).mpr haligned⟩

/-- The types of the catalogue are in wire order. -/
theorem MessageKind.isWireOrdered_fields (kind : MessageKind) : isWireOrdered kind.type.fields := by
  cases kind <;> decide

/-- The index of a parameter lies behind a number of four bytes and one of two. -/
theorem wire_order_aligns_paramValue :
    let fields := MessageKind.paramValue.type.fields
    let slot : Slot ⟨"param_index", .uint16, 0⟩ fields := .there (.there .here)
    let first : Fin fields.length := ⟨0, by decide⟩
    let last : Fin fields.length := ⟨4, by decide⟩
    isWireOrdered fields ∧ layoutSize (fields.take slot.index) = 6 ∧
      2 ∣ layoutSize (fields.take slot.index) ∧
      2 ∣ layoutSize (fields.take slot.index) % 2 ^ 64 ∧
      (fields.get last).primitive.size ≤ (fields.get first).primitive.size := by
  intro fields slot first last
  have hordered : isWireOrdered fields := MessageKind.isWireOrdered_fields .paramValue
  obtain ⟨hpairs, haligned, -⟩ := wire_order_aligns fields
  obtain ⟨hoffset, hwords⟩ := haligned hordered _ slot
  exact ⟨hordered, by decide, hoffset, hwords 64 (by decide),
    hpairs.mp hordered first last (by decide)⟩

end VehicleLink
