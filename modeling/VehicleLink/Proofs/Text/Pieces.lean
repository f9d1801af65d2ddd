import VehicleLink.Proofs.Text.Utf8

/-!
# Proofs/Text/Pieces — a text between its commas

`commaPieces` cuts a text at its commas, and `commaPiecesOf` cuts bytes at theirs.  The two agree on
every spelling (`commaPiecesOf_utf8`), as no other character's spelling holds the byte of a comma.

Parts that hold no comma are found again once they are joined (`commaPieces_commaJoin`).

`spans` lists where pieces lie when each but the last is followed by a comma.  One more byte changes
only the last piece or opens a new one (`commaPiecesOf_comma`, `commaPiecesOf_other`), so places can
be kept while bytes come in, and cutting at them later gives the pieces back (`map_spans`).
-/

namespace VehicleLink

/-! ## Cutting -/

/-- The parts of a text between its commas. -/
def commaPieces (text : String) : List String := (text.toList.splitOn ',').map String.ofList

/-- The parts of some bytes between the commas. -/
def commaPiecesOf (bytes : List UInt8) : List (List UInt8) := bytes.splitOn 0x2C

theorem splitOn_append_of_not_mem {α : Type} [BEq α] [LawfulBEq α] {a : α} {xs : List α}
    (h : a ∉ xs) (ys : List α) :
    (xs ++ ys).splitOn a = (ys.splitOn a).modifyHead (xs ++ ·) := by
  induction xs with
  | nil =>
    obtain ⟨piece, pieces, hsplit⟩ := List.exists_cons_of_ne_nil (List.splitOn_ne_nil a ys)
    rw [List.nil_append, hsplit]
    rfl
  | cons x xs ih =>
    obtain ⟨hx, hxs⟩ := not_or.mp (mt List.mem_cons.mpr h)
    obtain ⟨piece, pieces, hsplit⟩ := List.exists_cons_of_ne_nil (List.splitOn_ne_nil a ys)
    have hne : (x == a) = false := beq_eq_false_iff_ne.mpr fun heq => hx heq.symm
    rw [List.cons_append, List.splitOn_cons_eq_if_modifyHead, hne, ih hxs, hsplit]
    rfl

/-- **Cutting the spelling of a text is spelling the parts of the text.** -/
theorem commaPiecesOf_utf8 (text : String) :
    commaPiecesOf (utf8 text) = (commaPieces text).map utf8 := by
  rw [utf8_eq_flatMap, commaPiecesOf, commaPieces, List.map_map]
  induction text.toList with
  | nil => simp
  | cons c cs ih =>
    obtain ⟨piece, pieces, hsplit⟩ := List.exists_cons_of_ne_nil (List.splitOn_ne_nil ',' cs)
    rw [List.splitOn_cons_eq_if_modifyHead, List.flatMap_cons]
    by_cases hc : c = ','
    · subst hc
      have hcomma : String.utf8EncodeChar ',' = [0x2C] := rfl
      rw [hcomma, List.singleton_append, List.splitOn_cons_eq_if_modifyHead, ih]
      rfl
    · have hcomma : (0x2C : UInt8) ∉ String.utf8EncodeChar c := by
        rw [mem_utf8EncodeChar_iff (by decide)]
        exact fun h => hc (Char.toNat_inj.mp h)
      rw [splitOn_append_of_not_mem hcomma, ih, if_neg (by simpa using hc), hsplit,
        List.map_cons, List.modifyHead_cons, List.modifyHead_cons, List.map_cons]
      simp only [Function.comp_apply, utf8_ofList, List.flatMap_cons]

theorem commaPieces_ne_nil (text : String) : commaPieces text ≠ [] := by
  rw [commaPieces, ne_eq, List.map_eq_nil_iff]
  exact List.splitOn_ne_nil _ _

/-- A comma closes the last piece and opens an empty one. -/
theorem commaPiecesOf_comma (bytes : List UInt8) :
    commaPiecesOf (bytes ++ [0x2C]) = commaPiecesOf bytes ++ [[]] :=
  List.splitOn_append_cons_self bytes []

theorem splitOn_append_right_of_not_mem {α : Type} [BEq α] [LawfulBEq α] {a : α} {xs ys : List α}
    (h : a ∉ ys) {pieces : List (List α)} {last : List α}
    (hsplit : xs.splitOn a = pieces ++ [last]) :
    (xs ++ ys).splitOn a = pieces ++ [last ++ ys] := by
  induction xs generalizing pieces last with
  | nil =>
    rw [List.splitOn_nil, ← List.nil_append [[]]] at hsplit
    obtain ⟨rfl, rfl⟩ := List.append_singleton_inj.mp hsplit
    exact List.splitOn_eq_singleton h
  | cons x xs ih =>
    -- The last piece of the tail is there whatever its first byte does.
    obtain ⟨pieces', last', htail⟩ : ∃ pieces' last', xs.splitOn a = pieces' ++ [last'] :=
      ⟨_, _, (List.dropLast_concat_getLast (List.splitOn_ne_nil a xs)).symm⟩
    rw [List.splitOn_cons_eq_if_modifyHead, htail] at hsplit
    rw [List.cons_append, List.splitOn_cons_eq_if_modifyHead, ih htail]
    cases hx : x == a with
    | true =>
      rw [hx, if_pos rfl, ← List.cons_append] at hsplit
      obtain ⟨rfl, rfl⟩ := List.append_singleton_inj.mp hsplit
      rfl
    | false =>
      rw [hx, if_neg Bool.false_ne_true] at hsplit
      rw [if_neg Bool.false_ne_true]
      cases pieces' with
      | nil =>
        change [] ++ [x :: last'] = pieces ++ [last] at hsplit
        obtain ⟨rfl, rfl⟩ := List.append_singleton_inj.mp hsplit
        rfl
      | cons piece pieces' =>
        change ((x :: piece) :: pieces') ++ [last'] = pieces ++ [last] at hsplit
        obtain ⟨rfl, rfl⟩ := List.append_singleton_inj.mp hsplit
        rfl

/-- Any other byte belongs to the last piece. -/
theorem commaPiecesOf_other {bytes last : List UInt8} {pieces : List (List UInt8)} {byte : UInt8}
    (h : commaPiecesOf bytes = pieces ++ [last]) (hbyte : byte ≠ 0x2C) :
    commaPiecesOf (bytes ++ [byte]) = pieces ++ [last ++ [byte]] :=
  splitOn_append_right_of_not_mem (by simpa using hbyte.symm) h

/-! ## Joining -/

/-- Some parts with a comma between each two. -/
def commaJoin (parts : List String) : String :=
  String.ofList ([','].intercalate (parts.map String.toList))

theorem utf8_commaJoin (parts : List String) :
    utf8 (commaJoin parts) = [0x2C].intercalate (parts.map utf8) := by
  rw [commaJoin, utf8_ofList]
  induction parts with
  | nil => rfl
  | cons part parts ih =>
    cases parts with
    | nil =>
      rw [List.map_singleton, List.map_singleton, List.intercalate_singleton,
        List.intercalate_singleton, utf8_eq_flatMap]
    | cons part' parts =>
      rw [List.map_cons, List.map_cons] at ih ⊢
      rw [List.map_cons, List.map_cons, List.intercalate_cons_cons, List.intercalate_cons_cons,
        List.flatMap_append, List.flatMap_append, ih, ← utf8_eq_flatMap]
      rfl

/-- **Joined parts are found again**, if none of them holds a comma. -/
theorem commaPieces_commaJoin {parts : List String} (hne : parts ≠ [])
    (h : ∀ part ∈ parts, ',' ∉ part.toList) : commaPieces (commaJoin parts) = parts := by
  have hplain : ∀ cs ∈ parts.map String.toList, ',' ∉ cs := by
    intro cs hcs
    obtain ⟨part, hpart, rfl⟩ := List.mem_map.mp hcs
    exact h part hpart
  rw [commaPieces, commaJoin, String.toList_ofList,
    List.splitOn_intercalate ',' hplain (mt List.map_eq_nil_iff.mp hne), List.map_map]
  have hread : String.ofList ∘ String.toList = id := by
    funext part
    exact String.ofList_toList
  rw [hread, List.map_id]

/-- Joining adds no bytes but commas. -/
theorem mem_intercalate_comma {byte : UInt8} {pieces : List (List UInt8)}
    (h : byte ∈ [0x2C].intercalate pieces) : byte = 0x2C ∨ ∃ piece ∈ pieces, byte ∈ piece := by
  induction pieces with
  | nil => cases h
  | cons piece pieces ih =>
    cases pieces with
    | nil =>
      rw [List.intercalate_singleton] at h
      exact .inr ⟨piece, List.mem_cons_self, h⟩
    | cons piece' pieces =>
      rw [List.intercalate_cons_cons, List.mem_append, List.mem_append, List.mem_singleton] at h
      rcases h with (hpiece | hcomma) | hrest
      · exact .inr ⟨piece, List.mem_cons_self, hpiece⟩
      · exact .inl hcomma
      · rcases ih hrest with hcomma | ⟨piece'', hmem, hbyte⟩
        · exact .inl hcomma
        · exact .inr ⟨piece'', List.mem_cons_of_mem piece hmem, hbyte⟩

/-! ## Places -/

/-- The room that pieces take, with a comma after each. -/
def width : (pieces : List (List UInt8)) → Nat
  | [] => 0
  | piece :: pieces => piece.length + 1 + width pieces

/-- Where pieces start and end, from `place` on, with a comma after each. -/
def spans (place : Nat) : (pieces : List (List UInt8)) → List (Nat × Nat)
  | [] => []
  | piece :: pieces => (place, place + piece.length) :: spans (place + piece.length + 1) pieces

theorem width_append (pieces pieces' : List (List UInt8)) :
    width (pieces ++ pieces') = width pieces + width pieces' := by
  induction pieces with
  | nil => exact (Nat.zero_add _).symm
  | cons piece pieces ih => rw [List.cons_append, width, ih, width, Nat.add_assoc (_ + 1)]

theorem spans_append (place : Nat) (pieces pieces' : List (List UInt8)) :
    spans place (pieces ++ pieces')
      = spans place pieces ++ spans (place + width pieces) pieces' := by
  induction pieces generalizing place with
  | nil => rfl
  | cons piece pieces ih =>
    rw [List.cons_append, spans, ih, spans, List.cons_append, width, Nat.add_assoc place,
      Nat.add_assoc place]

theorem length_intercalate_comma (pieces : List (List UInt8)) (last : List UInt8) :
    ([0x2C].intercalate (pieces ++ [last])).length = width pieces + last.length := by
  induction pieces with
  | nil =>
    rw [List.nil_append, List.intercalate_singleton]
    exact (Nat.zero_add _).symm
  | cons piece pieces ih =>
    rw [List.cons_append, List.intercalate_cons_of_ne_nil (by simp), List.length_append,
      List.length_append, ih, width]
    simp only [List.length_singleton]
    omega

/-- The last piece ends where the bytes end. -/
theorem width_add_length {bytes last : List UInt8} {pieces : List (List UInt8)}
    (h : commaPiecesOf bytes = pieces ++ [last]) : width pieces + last.length = bytes.length := by
  have hjoin : [0x2C].intercalate (commaPiecesOf bytes) = bytes := List.intercalate_splitOn 0x2C
  rw [← length_intercalate_comma, ← h, hjoin]

/-- **Whatever is cut out at the places of the pieces is cut out of the pieces**, if it depends only
on the bytes between the two places. -/
theorem map_spans {β : Type} {cut : Nat × Nat → β} {ofPiece : List UInt8 → β} {bytes : List UInt8}
    (hcut : ∀ before piece after, before ++ (piece ++ after) = bytes →
      cut (before.length, before.length + piece.length) = ofPiece piece) :
    (spans 0 (commaPiecesOf bytes)).map cut = (commaPiecesOf bytes).map ofPiece := by
  have hpieces (before : List UInt8) (pieces : List (List UInt8))
      (h : before ++ [0x2C].intercalate pieces = bytes) :
      (spans before.length pieces).map cut = pieces.map ofPiece := by
    induction pieces generalizing before with
    | nil => rfl
    | cons piece pieces ih =>
      rw [spans, List.map_cons, List.map_cons]
      cases pieces with
      | nil =>
        rw [List.intercalate_singleton, ← List.append_nil piece] at h
        rw [← hcut before piece [] h]
        rfl
      | cons piece' pieces =>
        rw [List.intercalate_cons_cons, List.append_assoc] at h
        refine List.cons_eq_cons.mpr ⟨hcut before piece _ h, ?_⟩
        rw [← List.append_assoc, ← List.append_assoc] at h
        have hnext := ih _ h
        rwa [List.length_append, List.length_append, List.length_singleton] at hnext
  exact hpieces [] _ (List.intercalate_splitOn 0x2C)

/-- Cutting the bytes at the places of the pieces gives the pieces. -/
theorem map_slice_spans (bytes : List UInt8) :
    (spans 0 (commaPiecesOf bytes)).map (fun range => (bytes.take range.2).drop range.1)
      = commaPiecesOf bytes := by
  refine (map_spans fun before piece after hbytes => ?_).trans (List.map_id _)
  rw [← hbytes, List.take_length_add_append, List.take_left, List.drop_left, id]

end VehicleLink
