import VehicleLink.Proofs.Bytes.Buffer
import VehicleLink.Proofs.Text.Padded

/-!
# Proofs/Text/Boundary — a text is cut where a character starts

`fit` keeps characters from the front while there is room.  The cut can also be found among the
bytes alone, from the back: step down from the last place there is room for to a byte that starts a
character (`boundaryBelow?`).  Both keep the longest front of the text that there is room for
(`ofText_keeps_longest_front`).

The engine is `isBoundary_spelling_iff`: the places of a spelling where a character starts, or where
it ends, are the lengths of the spellings of its fronts.
-/

namespace VehicleLink

/-! ## Boundaries -/

/-- Whether `place` is the end of the bytes, or that of a byte which can start a character. -/
def isBoundary (bytes : List UInt8) (place : Nat) : Bool :=
  match bytes[place]? with
  | some byte => decide byte.IsUTF8FirstByte
  | none => place = bytes.length

/-- The last boundary up to `place`, found by stepping down.  There is none if the step below the
first place would be taken. -/
def boundaryBelow? (bytes : List UInt8) : (place : Nat) → Option Nat
  | 0 => if isBoundary bytes 0 then some 0 else none
  | place + 1 =>
    if isBoundary bytes (place + 1) then some (place + 1) else boundaryBelow? bytes place

theorem isBoundary_utf8EncodeChar_append (c : Char) (rest : List UInt8) (place : Nat) :
    isBoundary (String.utf8EncodeChar c ++ rest) place
      ↔ place = 0 ∨ c.utf8Size ≤ place ∧ isBoundary rest (place - c.utf8Size) := by
  have hlength := String.length_utf8EncodeChar c
  have hpos := c.utf8Size_pos
  rcases Nat.lt_or_ge place c.utf8Size with hlt | hge
  · have hinside : place < (String.utf8EncodeChar c).length := by omega
    rw [isBoundary, List.getElem?_append_left hinside, List.getElem?_eq_getElem hinside,
      decide_eq_true_eq, UInt8.isUTF8FirstByte_getElem_utf8EncodeChar]
    omega
  · have hplace : place ≠ 0 := by omega
    rw [isBoundary, isBoundary, List.getElem?_append_right (hlength ▸ hge), hlength]
    simp only [hplace, hge, false_or, true_and]
    cases rest[place - c.utf8Size]? with
    | some byte => exact Iff.rfl
    | none =>
      rw [decide_eq_true_eq, decide_eq_true_eq, List.length_append]
      omega

/-- **The boundaries of a spelling are the lengths of its fronts.** -/
theorem isBoundary_spelling_iff {cs : List Char} {place : Nat} :
    isBoundary (cs.flatMap String.utf8EncodeChar) place
      ↔ ∃ front, front <+: cs ∧ (front.flatMap String.utf8EncodeChar).length = place := by
  induction cs generalizing place with
  | nil =>
    rw [List.flatMap_nil, isBoundary, List.getElem?_nil, decide_eq_true_eq]
    constructor
    · rintro rfl
      exact ⟨[], List.nil_prefix, rfl⟩
    · rintro ⟨front, hfront, rfl⟩
      rw [List.prefix_nil.mp hfront]
      rfl
  | cons c cs ih =>
    rw [List.flatMap_cons, isBoundary_utf8EncodeChar_append, ih]
    constructor
    · rintro (rfl | ⟨hle, front, hfront, hlength⟩)
      · exact ⟨[], List.nil_prefix, rfl⟩
      · refine ⟨c :: front, List.cons_prefix_cons.mpr ⟨rfl, hfront⟩, ?_⟩
        rw [List.flatMap_cons, List.length_append, String.length_utf8EncodeChar, hlength]
        omega
    · rintro ⟨front, hfront, rfl⟩
      match front, hfront with
      | [], _ => exact .inl rfl
      | c' :: front, hfront =>
        obtain ⟨rfl, hrest⟩ := List.cons_prefix_cons.mp hfront
        rw [List.flatMap_cons, List.length_append, String.length_utf8EncodeChar]
        exact .inr ⟨by omega, front, hrest, by omega⟩

/-- **Stepping down ends at the last boundary on the way**, if there is one. -/
theorem boundaryBelow?_eq_some {bytes : List UInt8} {place found : Nat} (hle : found ≤ place)
    (hfound : isBoundary bytes found)
    (hlast : ∀ later ≤ place, isBoundary bytes later → later ≤ found) :
    boundaryBelow? bytes place = some found := by
  induction place with
  | zero =>
    obtain rfl := Nat.le_zero.mp hle
    rw [boundaryBelow?, if_pos hfound]
  | succ place ih =>
    rw [boundaryBelow?]
    split
    · next hhere =>
      exact congrArg some (Nat.le_antisymm (hlast _ (Nat.le_refl _) hhere) hle)
    · next hhere =>
      have hne : found ≠ place + 1 := by
        rintro rfl
        exact hhere hfound
      exact ih (by omega) fun later hlater => hlast later (by omega)

/-! ## The longest front that there is room for -/

/-- What `fit` leaves off starts with a character that there is no room for. -/
theorem fit_eq_or_exists (room : Nat) (cs : List Char) :
    fit room cs = cs ∨ ∃ c rest, cs = fit room cs ++ c :: rest ∧
      room < ((fit room cs).flatMap String.utf8EncodeChar).length + c.utf8Size := by
  induction cs generalizing room with
  | nil => exact .inl rfl
  | cons c cs ih =>
    rw [fit]
    split
    · next hroom =>
      rcases ih (room - c.utf8Size) with hall | ⟨c', rest, hcs, hfull⟩
      · exact .inl (congrArg (c :: ·) hall)
      · refine .inr ⟨c', rest, congrArg (c :: ·) hcs, ?_⟩
        rw [List.flatMap_cons, List.length_append, String.length_utf8EncodeChar]
        omega
    · next hroom =>
      refine .inr ⟨c, cs, rfl, ?_⟩
      rw [List.flatMap_nil, List.length_nil]
      omega

theorem fit_isPrefix (room : Nat) (cs : List Char) : fit room cs <+: cs := by
  rcases fit_eq_or_exists room cs with hall | ⟨c, rest, hcs, -⟩
  · exact ⟨[], by rw [hall, List.append_nil]⟩
  · exact ⟨c :: rest, hcs.symm⟩

/-- **No longer front has room.** -/
theorem prefix_fit {room : Nat} {cs front : List Char} (hfront : front <+: cs)
    (hroom : (front.flatMap String.utf8EncodeChar).length ≤ room) : front <+: fit room cs := by
  rcases fit_eq_or_exists room cs with hall | ⟨c, rest, hcs, hfull⟩
  · rwa [hall]
  · rcases List.prefix_or_prefix_of_prefix hfront (fit_isPrefix room cs) with hinside | ⟨more, hmore⟩
    · exact hinside
    · rw [hcs, ← hmore, List.prefix_append_right_inj] at hfront
      rw [← hmore] at hroom ⊢
      match more, hfront with
      | [], _ => exact ⟨[], by simp only [List.append_nil]⟩
      | c' :: more, hnext =>
        obtain ⟨rfl, -⟩ := List.cons_prefix_cons.mp hnext
        rw [List.flatMap_append, List.flatMap_cons, List.length_append, List.length_append,
          String.length_utf8EncodeChar] at hroom
        omega

theorem length_spelling_le {front cs : List Char} (h : front <+: cs) :
    (front.flatMap String.utf8EncodeChar).length
      ≤ (cs.flatMap String.utf8EncodeChar).length := by
  obtain ⟨rest, rfl⟩ := h
  rw [List.flatMap_append, List.length_append]
  exact Nat.le_add_right ..

/-- The longest front of a text that there is room for. -/
def longestFront (room : Nat) (text : String) : String := String.ofList (fit room text.toList)

theorem exists_eq_longestFront_append (room : Nat) (text : String) :
    ∃ back, text = longestFront room text ++ back := by
  obtain ⟨back, hback⟩ := fit_isPrefix room text.toList
  refine ⟨String.ofList back, ?_⟩
  rw [longestFront, ← String.ofList_append, hback, String.ofList_toList]

theorem length_utf8_longestFront_le (room : Nat) (text : String) :
    (utf8 (longestFront room text)).length ≤ room :=
  length_utf8_fit room text.toList

theorem exists_longestFront_eq_append {room : Nat} {text front' back' : String}
    (htext : text = front' ++ back') (hroom : (utf8 front').length ≤ room) :
    ∃ more, longestFront room text = front' ++ more := by
  have hprefix : front'.toList <+: text.toList := by
    rw [htext, String.toList_append]
    exact List.prefix_append ..
  rw [utf8_eq_flatMap] at hroom
  obtain ⟨more, hmore⟩ := prefix_fit hprefix hroom
  refine ⟨String.ofList more, ?_⟩
  rw [longestFront, ← hmore, String.ofList_append, String.ofList_toList]

theorem longestFront_of_le {room : Nat} {text : String} (h : (utf8 text).length ≤ room) :
    longestFront room text = text := by
  rw [utf8_eq_flatMap] at h
  rw [longestFront, fit_of_le h, String.ofList_toList]

/-- Of the room that a text is cut to, less than a character is left over. -/
theorem le_length_utf8_longestFront {room : Nat} {text : String} (h : room < (utf8 text).length) :
    room ≤ (utf8 (longestFront room text)).length + 3 := by
  rw [longestFront, utf8_ofList]
  rcases fit_eq_or_exists room text.toList with hall | ⟨c, rest, -, hfull⟩
  · rw [hall, ← utf8_eq_flatMap]
    omega
  · have := c.utf8Size_le_four
    omega

/-- A boundary in the room is the end of a front that has room. -/
theorem le_of_isBoundary {room place : Nat} {text : String} (hplace : place ≤ room)
    (h : isBoundary (utf8 text) place) : place ≤ (utf8 (longestFront room text)).length := by
  rw [utf8_eq_flatMap] at h
  obtain ⟨cs, hprefix, rfl⟩ := isBoundary_spelling_iff.mp h
  rw [longestFront, utf8_ofList]
  exact length_spelling_le (prefix_fit hprefix hplace)

/-- **Stepping down finds the end of the longest front.** -/
theorem boundaryBelow?_utf8 (room : Nat) (text : String) :
    boundaryBelow? (utf8 text) (min (utf8 text).length room)
      = some (utf8 (longestFront room text)).length := by
  have hend : isBoundary (utf8 text) (utf8 (longestFront room text)).length := by
    rw [longestFront, utf8_ofList, utf8_eq_flatMap]
    exact isBoundary_spelling_iff.mpr ⟨_, fit_isPrefix room text.toList, rfl⟩
  have hle : (utf8 (longestFront room text)).length ≤ (utf8 text).length := by
    rw [longestFront, utf8_ofList, utf8_eq_flatMap]
    exact length_spelling_le (fit_isPrefix room text.toList)
  exact boundaryBelow?_eq_some (Nat.le_min.mpr ⟨hle, length_utf8_longestFront_le room text⟩) hend
    fun later hlater => le_of_isBoundary (Nat.le_trans hlater (Nat.min_le_right ..))

/-! ## Storing -/

/-- Bytes up to the first zero, in front of zeros that fill a store up, spell the characters up to
the first that is spelled by a zero. -/
theorem takeWhile_spelling (cs : List Char) (count : Nat) :
    (cs.flatMap String.utf8EncodeChar ++ List.replicate count 0).takeWhile (· ≠ 0)
      = (cs.takeWhile (· ≠ '\x00')).flatMap String.utf8EncodeChar := by
  induction cs with
  | nil => cases count <;> rfl
  | cons c cs ih =>
    rw [List.flatMap_cons, List.append_assoc]
    by_cases hzero : c = '\x00'
    · subst hzero
      rfl
    · have hbytes : ∀ byte ∈ String.utf8EncodeChar c, decide (byte ≠ 0) := by
        intro byte hbyte
        refine decide_eq_true ?_
        rintro rfl
        exact hzero (Char.toNat_inj.mp ((mem_utf8EncodeChar_iff (by decide)).mp hbyte))
      have hkept : (c :: cs).takeWhile (· ≠ '\x00') = c :: cs.takeWhile (· ≠ '\x00') :=
        List.takeWhile_cons_of_pos (decide_eq_true hzero)
      rw [List.takeWhile_append_of_pos hbytes, ih, hkept, List.flatMap_cons]

namespace PaddedText

/-- Copies a spelling over zeros, up to the last boundary that there is room for. -/
def copied? (capacity : Nat) (spelling : List UInt8) : Option (List UInt8) :=
  (boundaryBelow? spelling (min spelling.length capacity)).map fun count =>
    overwrite (List.replicate capacity 0) 0 (spelling.take count)

theorem bytes_ofText_eq (capacity : Nat) (text : String) :
    (ofText capacity text).bytes = utf8 (longestFront capacity text) ++
      List.replicate (capacity - (utf8 (longestFront capacity text)).length) 0 := by
  rw [bytes_ofText, List.rightpad, longestFront]

theorem copied?_utf8 (capacity : Nat) (text : String) :
    copied? capacity (utf8 text) = some (ofText capacity text).bytes := by
  obtain ⟨back, hback⟩ := exists_eq_longestFront_append capacity text
  have hspelled : utf8 text = utf8 (longestFront capacity text) ++ utf8 back :=
    (congrArg utf8 hback).trans (utf8_append ..)
  have htake : (utf8 text).take (utf8 (longestFront capacity text)).length
      = utf8 (longestFront capacity text) := by
    rw [hspelled, List.take_left]
  rw [copied?, boundaryBelow?_utf8, Option.map_some, htake, overwrite_zero, List.drop_replicate,
    bytes_ofText_eq]

theorem text_ofText_eq (capacity : Nat) (text : String) :
    (ofText capacity text).text
      = String.ofList ((longestFront capacity text).toList.takeWhile (· ≠ '\x00')) := by
  rw [PaddedText.text, bytes_ofText_eq, utf8_eq_flatMap, takeWhile_spelling, ← utf8_ofList,
    leadingText_utf8]

/-- **A padded text keeps the longest front that there is room for.**

Searching the bytes for the cut does not run below the first of them, and copies what is stored: a
front of the text, then zeros.  The front has room, no longer front has, and it is the whole text if
that has room; if not, at most three bytes are left over.  What is read is the front up to its first
zero, so a text that has room and no zero is read as it was written. -/
theorem ofText_keeps_longest_front (capacity : Nat) (text : String) :
    ∃ front back : String, text = front ++ back ∧
      boundaryBelow? (utf8 text) (min (utf8 text).length capacity) = some (utf8 front).length ∧
      copied? capacity (utf8 text) = some (ofText capacity text).bytes ∧
      (ofText capacity text).bytes
        = utf8 front ++ List.replicate (capacity - (utf8 front).length) 0 ∧
      (utf8 front).length ≤ capacity ∧
      (∀ front' back', text = front' ++ back' → (utf8 front').length ≤ capacity →
        ∃ more, front = front' ++ more) ∧
      (∀ place ≤ capacity, isBoundary (utf8 text) place → place ≤ (utf8 front).length) ∧
      ((utf8 text).length ≤ capacity → front = text) ∧
      (capacity < (utf8 text).length → capacity ≤ (utf8 front).length + 3) ∧
      (ofText capacity text).text = String.ofList (front.toList.takeWhile (· ≠ '\x00')) ∧
      ((utf8 text).length ≤ capacity → '\x00' ∉ text.toList →
        (ofText capacity text).text = text) := by
  obtain ⟨back, hback⟩ := exists_eq_longestFront_append capacity text
  refine ⟨longestFront capacity text, back, hback, boundaryBelow?_utf8 capacity text,
    copied?_utf8 capacity text, bytes_ofText_eq capacity text,
    length_utf8_longestFront_le capacity text, fun _ _ => exists_longestFront_eq_append,
    fun _ => le_of_isBoundary, longestFront_of_le, le_length_utf8_longestFront,
    text_ofText_eq capacity text, fun hroom hzero => ?_⟩
  refine text_ofText hroom fun hmem => hzero ?_
  exact (mem_utf8_iff (c := '\x00') (by decide)).mp hmem

/-- A text whose last character would be cut apart, and the text without it. -/
theorem ofText_keeps_longest_front_euro :
    (3 < (utf8 "aé€").length ∧ (utf8 "aé").length ≤ 3 ∧ '\x00' ∉ "aé".toList) ∧
    (∃ front back : String, "aé€" = front ++ back ∧ (∃ more, front = "aé" ++ more) ∧
      (utf8 front).length ≤ 3 ∧ 3 ≤ (utf8 front).length + 3) ∧
    (ofText 3 "aé").text = "aé" := by
  have hlong : 3 < (utf8 "aé€").length := by decide +kernel
  have hroom : (utf8 "aé").length ≤ 3 := by decide +kernel
  have hzero : '\x00' ∉ "aé".toList := by decide +kernel
  have hsplit : "aé€" = "aé" ++ "€" := by decide +kernel
  obtain ⟨front, back, htext, -, -, -, hfits, hlongest, -, -, hwaste, -, -⟩ :=
    ofText_keeps_longest_front 3 "aé€"
  obtain ⟨-, -, -, -, -, -, -, -, -, -, -, -, hread⟩ := ofText_keeps_longest_front 3 "aé"
  exact ⟨⟨hlong, hroom, hzero⟩,
    ⟨front, back, htext, hlongest "aé" "€" hsplit hroom, hfits, hwaste hlong⟩, hread hroom hzero⟩

end PaddedText

end VehicleLink
