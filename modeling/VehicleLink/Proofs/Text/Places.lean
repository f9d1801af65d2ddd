import Mathlib.Data.List.Basic
import VehicleLink.Proofs.Text.Boundary
import VehicleLink.Proofs.Text.Pieces

/-!
# Proofs/Text/Places — where the commas of some bytes lie

The pieces between the commas end at the commas, the last one at the end of the bytes, and each but
the first starts behind a comma (`map_snd_spans`, `exists_getElem?_of_succ`).  In a spelling a comma
is a character of its own, so both places next to it are boundaries (`isBoundary_of_comma`,
`isBoundary_succ_of_comma`), and no piece is cut in the middle of a character.
-/

namespace VehicleLink

/-! ## The ends of the pieces -/

/-- The places of the commas in some bytes. -/
def commaPlaces (bytes : List UInt8) : List Nat := bytes.idxsOf 0x2C

theorem mem_commaPlaces_iff {bytes : List UInt8} {place : Nat} :
    place ∈ commaPlaces bytes ↔ bytes[place]? = some 0x2C := by
  rw [commaPlaces, List.mem_idxsOf_iff_exists_getElem_pos, List.getElem?_eq_some_iff]
  exact exists_congr fun _ => beq_iff_eq

theorem commaPlaces_eq_nil_iff {bytes : List UInt8} : commaPlaces bytes = [] ↔ 0x2C ∉ bytes := by
  rw [commaPlaces, List.idxsOf_eq_nil_iff]
  refine ⟨fun h hmem => ?_, fun h byte hmem => beq_eq_false_iff_ne.mpr fun heq => h (heq ▸ hmem)⟩
  exact absurd rfl (beq_eq_false_iff_ne.mp (h 0x2C hmem))

theorem length_commaPlaces (bytes : List UInt8) : (commaPlaces bytes).length = bytes.count 0x2C :=
  List.length_idxsOf

theorem not_mem_of_mem_splitOn {α : Type} [BEq α] [LawfulBEq α] {a : α} {xs piece : List α}
    (h : piece ∈ xs.splitOn a) : a ∉ piece := by
  induction xs generalizing piece with
  | nil =>
    rw [List.splitOn_nil, List.mem_singleton] at h
    rw [h]
    exact List.not_mem_nil
  | cons x xs ih =>
    obtain ⟨first, rest, hsplit⟩ := List.exists_cons_of_ne_nil (List.splitOn_ne_nil a xs)
    rw [List.splitOn_cons_eq_if_modifyHead] at h
    split at h
    · rcases List.mem_cons.mp h with rfl | hmem
      · exact List.not_mem_nil
      · exact ih hmem
    · next hne =>
      rw [hsplit, List.modifyHead_cons] at h
      rw [hsplit] at ih
      rcases List.mem_cons.mp h with rfl | hmem
      · refine fun hmem => ?_
        rcases List.mem_cons.mp hmem with rfl | hfirst
        · exact hne BEq.rfl
        · exact ih List.mem_cons_self hfirst
      · exact ih (List.mem_cons_of_mem first hmem)

/-- Pieces without a comma end where a comma is put behind them, and the last one at the end. -/
theorem map_snd_spans_of_plain {pieces : List (List UInt8)} (hne : pieces ≠ [])
    (hplain : ∀ piece ∈ pieces, (0x2C : UInt8) ∉ piece) (place : Nat) :
    (spans place pieces).map Prod.snd
      = List.idxsOf 0x2C ([0x2C].intercalate pieces) place
        ++ [place + ([0x2C].intercalate pieces).length] := by
  induction pieces generalizing place with
  | nil => exact absurd rfl hne
  | cons piece pieces ih =>
    obtain ⟨hpiece, hpieces⟩ := List.forall_mem_cons.mp hplain
    have hnone : List.idxsOf 0x2C piece place = [] := by
      rw [List.idxsOf_start]
      exact List.map_eq_nil_iff.mpr (commaPlaces_eq_nil_iff.mpr hpiece)
    cases pieces with
    | nil =>
      rw [List.intercalate_singleton, hnone]
      rfl
    | cons piece' pieces =>
      have hends := ih (List.cons_ne_nil piece' pieces) hpieces (place + piece.length + 1)
      have hlength : place + piece.length + 1 + ([0x2C].intercalate (piece' :: pieces)).length
          = place + ([0x2C].intercalate (piece :: piece' :: pieces)).length := by
        rw [List.intercalate_cons_cons, List.length_append, List.length_append,
          List.length_singleton]
        omega
      rw [hlength] at hends
      have hbehind : place + (piece ++ [0x2C]).length = place + piece.length + 1 := by
        rw [List.length_append, List.length_singleton, Nat.add_assoc]
      rw [spans, List.map_cons, hends, List.intercalate_cons_cons, List.idxsOf_append,
        List.idxsOf_append, hnone, hbehind]
      rfl

/-- **The pieces end at the commas**, and the last one at the end of the bytes. -/
theorem map_snd_spans (bytes : List UInt8) :
    (spans 0 (commaPiecesOf bytes)).map Prod.snd = commaPlaces bytes ++ [bytes.length] := by
  have hends := map_snd_spans_of_plain (List.splitOn_ne_nil 0x2C bytes)
    (fun _ => not_mem_of_mem_splitOn) 0
  rwa [List.intercalate_splitOn, Nat.zero_add] at hends

theorem mem_ends_of_mem_spans {bytes : List UInt8} {range : Nat × Nat}
    (h : range ∈ spans 0 (commaPiecesOf bytes)) : range.2 ∈ commaPlaces bytes ++ [bytes.length] := by
  rw [← map_snd_spans]
  exact List.mem_map_of_mem h

/-- **Each piece but the first starts behind the comma that ends the piece before it.** -/
theorem exists_getElem?_of_succ {place : Nat} {pieces : List (List UInt8)} {k : Nat}
    {range : Nat × Nat} (h : (spans place pieces)[k + 1]? = some range) :
    ∃ before, (spans place pieces)[k]? = some before ∧ range.1 = before.2 + 1 := by
  induction pieces generalizing place k with
  | nil => cases h
  | cons piece pieces ih =>
    rw [spans, List.getElem?_cons_succ] at h
    cases k with
    | zero =>
      cases pieces with
      | nil => cases h
      | cons piece' pieces =>
        obtain rfl := Option.some.inj h
        exact ⟨_, rfl, rfl⟩
    | succ k => exact ih h

theorem le_length_of_mem_ends {bytes : List UInt8} {place : Nat}
    (h : place ∈ commaPlaces bytes ++ [bytes.length]) : place ≤ bytes.length := by
  rcases List.mem_append.mp h with hcomma | hend
  · obtain ⟨hlt, -⟩ := List.getElem?_eq_some_iff.mp (mem_commaPlaces_iff.mp hcomma)
    exact Nat.le_of_lt hlt
  · exact Nat.le_of_eq (List.mem_singleton.mp hend)

/-- The first comma, or the end of the bytes. -/
theorem head?_ends (bytes : List UInt8) :
    (commaPlaces bytes ++ [bytes.length]).head? = some (bytes.idxOf 0x2C) := by
  have hends (place : Nat) : (List.idxsOf 0x2C bytes place ++ [place + bytes.length]).head?
      = some (place + bytes.idxOf 0x2C) := by
    induction bytes generalizing place with
    | nil => rfl
    | cons byte bytes ih =>
      rw [List.idxsOf_cons, List.idxOf_cons, List.length_cons]
      cases hcomma : byte == 0x2C with
      | true => rfl
      | false =>
        have hnext := ih (place + 1)
        rw [Nat.add_assoc, Nat.add_assoc, Nat.add_comm 1, Nat.add_comm 1] at hnext
        exact hnext
  have hfirst := hends 0
  rwa [Nat.zero_add, Nat.zero_add] at hfirst

theorem spans_bounds {place : Nat} {pieces : List (List UInt8)} {range : Nat × Nat}
    (h : range ∈ spans place pieces) : place ≤ range.1 ∧ range.1 ≤ range.2 := by
  induction pieces generalizing place with
  | nil => cases h
  | cons piece pieces ih =>
    rcases List.mem_cons.mp h with rfl | hmem
    · exact ⟨Nat.le_refl _, Nat.le_add_right ..⟩
    · obtain ⟨hfirst, hle⟩ := ih hmem
      exact ⟨by omega, hle⟩

/-- Pieces lie behind one another. -/
theorem spans_pairwise (place : Nat) (pieces : List (List UInt8)) :
    (spans place pieces).Pairwise fun a b => a.2 < b.1 := by
  induction pieces generalizing place with
  | nil => exact .nil
  | cons piece pieces ih =>
    exact .cons (fun range hmem => (spans_bounds hmem).1) (ih _)

/-! ## Commas in a spelling -/

theorem isBoundary_of_comma {bytes : List UInt8} {place : Nat} (h : bytes[place]? = some 0x2C) :
    isBoundary bytes place := by
  have hfirst : UInt8.IsUTF8FirstByte 0x2C := by decide
  rw [isBoundary, h]
  exact decide_eq_true hfirst

theorem isBoundary_length (bytes : List UInt8) : isBoundary bytes bytes.length := by
  rw [isBoundary, List.getElem?_length]
  exact decide_eq_true rfl

theorem isBoundary_of_mem_ends {bytes : List UInt8} {place : Nat}
    (h : place ∈ commaPlaces bytes ++ [bytes.length]) : isBoundary bytes place := by
  rcases List.mem_append.mp h with hcomma | hend
  · exact isBoundary_of_comma (mem_commaPlaces_iff.mp hcomma)
  · rw [List.mem_singleton.mp hend]
    exact isBoundary_length bytes

theorem isBoundary_succ_spelling {cs : List Char} {place : Nat}
    (h : (cs.flatMap String.utf8EncodeChar)[place]? = some 0x2C) :
    isBoundary (cs.flatMap String.utf8EncodeChar) (place + 1) := by
  induction cs generalizing place with
  | nil => cases h
  | cons c cs ih =>
    have hlength := String.length_utf8EncodeChar c
    rw [List.flatMap_cons] at h ⊢
    rw [isBoundary_utf8EncodeChar_append]
    rcases Nat.lt_or_ge place c.utf8Size with hinside | hbehind
    · rw [List.getElem?_append_left (hlength.symm ▸ hinside)] at h
      have hchar : c.toNat = 0x2C :=
        (mem_utf8EncodeChar_iff (by decide)).mp (List.mem_of_getElem? h)
      obtain rfl : c = ',' := Char.toNat_inj.mp hchar
      obtain rfl : place = 0 := Nat.lt_one_iff.mp hinside
      exact .inr ⟨Nat.le_refl 1, isBoundary_spelling_iff.mpr ⟨[], List.nil_prefix, rfl⟩⟩
    · rw [List.getElem?_append_right (hlength ▸ hbehind), hlength] at h
      have hnext := ih h
      rw [← Nat.sub_add_comm hbehind] at hnext
      exact .inr ⟨Nat.le_succ_of_le hbehind, hnext⟩

/-- **In a spelling a comma is a whole character**, and the next one starts behind it. -/
theorem isBoundary_succ_of_comma {text : String} {place : Nat}
    (h : (utf8 text)[place]? = some 0x2C) : isBoundary (utf8 text) (place + 1) := by
  rw [utf8_eq_flatMap] at h ⊢
  exact isBoundary_succ_spelling h

end VehicleLink
