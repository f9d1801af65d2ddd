import VehicleLink.Proofs.Bytes.Buffer

/-!
# Proofs/Bytes/Page — a buffer that is written from its start

A `Page` is written in place: each write goes on where the last one ended, and what does not fit is
dropped.  Once something has been dropped the page is full, and no later write changes it
(`write_of_lost`).  So a page always holds a leading part of all that was written on it, in front of
what the buffer held there before (`Holds`), however the writes were cut (`Holds.foldl_write`).
-/

namespace VehicleLink

/-- A buffer of which the first `filled` bytes are written, and whether something found no room. -/
@[ext]
structure Page where
  buffer : List UInt8
  filled : Nat
  lost : Bool
  filled_le : filled ≤ buffer.length
  full_of_lost : lost = true → filled = buffer.length

namespace Page

/-- The page on which nothing is written yet. -/
def blank (buffer : List UInt8) : Page := ⟨buffer, 0, false, Nat.zero_le _, nofun⟩

/-- Writes as much of some bytes as there is room for. -/
def write (page : Page) (bytes : List UInt8) : Page :=
  let kept := bytes.take (page.buffer.length - page.filled)
  have hroom : page.filled + kept.length ≤ page.buffer.length := by
    have := page.filled_le
    have : kept.length ≤ page.buffer.length - page.filled := List.length_take_le ..
    omega
  { buffer := overwrite page.buffer page.filled kept
    filled := page.filled + kept.length
    lost := page.lost || decide (kept.length < bytes.length)
    filled_le := by rwa [length_overwrite hroom]
    full_of_lost := by
      intro hlost
      rw [length_overwrite hroom]
      rcases Bool.or_eq_true_iff.mp hlost with hbefore | hnow
      · have := page.full_of_lost hbefore
        omega
      · have hshort := of_decide_eq_true hnow
        have : kept.length = min (page.buffer.length - page.filled) bytes.length :=
          List.length_take ..
        omega }

/-- Writes a byte, if there is room. -/
def put (page : Page) (byte : UInt8) : Page :=
  if h : page.filled < page.buffer.length then
    { buffer := page.buffer.set page.filled byte
      filled := page.filled + 1
      lost := page.lost
      filled_le := by rwa [List.length_set]
      full_of_lost := fun hlost => absurd (page.full_of_lost hlost) (Nat.ne_of_lt h) }
  else
    { page with
      lost := true
      full_of_lost := fun _ => Nat.le_antisymm page.filled_le (Nat.not_lt.mp h) }

/-- What is written on the page. -/
def written (page : Page) : List UInt8 := page.buffer.take page.filled

/-- What is kept of some bytes, if there is room for all of them. -/
theorem take_of_room {page : Page} {bytes : List UInt8}
    (h : page.filled + bytes.length ≤ page.buffer.length) :
    bytes.take (page.buffer.length - page.filled) = bytes :=
  List.take_of_length_le (by omega)

/-- A full page keeps nothing. -/
theorem take_of_full {page : Page} (h : page.filled = page.buffer.length) (bytes : List UInt8) :
    bytes.take (page.buffer.length - page.filled) = [] := by
  rw [h, Nat.sub_self, List.take_zero]

theorem put_eq_write (page : Page) (byte : UInt8) : page.put byte = page.write [byte] := by
  rw [put]
  split
  · next hroom =>
    have hkept : [byte].take (page.buffer.length - page.filled) = [byte] := take_of_room hroom
    ext1
    · simp only [write, hkept, overwrite, List.set_eq_take_append_cons_drop, if_pos hroom,
        List.append_assoc, List.singleton_append, List.length_singleton]
    · simp only [write, hkept, List.length_singleton]
    · simp only [write, hkept, Nat.lt_irrefl, decide_false, Bool.or_false]
  · next hfull =>
    have hfilled := Nat.le_antisymm page.filled_le (Nat.not_lt.mp hfull)
    have hkept := take_of_full hfilled [byte]
    ext1
    · simp only [write, hkept, overwrite_nil]
    · simp only [write, hkept, List.length_nil, Nat.add_zero]
    · simp only [write, hkept, List.length_nil, List.length_singleton, Nat.zero_lt_one,
        decide_true, Bool.or_true]

/-- **A page that has lost something is done with**: no later write changes it. -/
theorem write_of_lost {page : Page} (h : page.lost = true) (bytes : List UInt8) :
    page.write bytes = page := by
  have hkept := take_of_full (page.full_of_lost h) bytes
  ext1
  · simp only [write, hkept, overwrite_nil]
  · simp only [write, hkept, List.length_nil, Nat.add_zero]
  · simp only [write, h, Bool.true_or]

/-- What a page holds once `stream` has been written on a buffer that held `origin`. -/
structure Holds (page : Page) (origin stream : List UInt8) : Prop where
  buffer : page.buffer = stream.take origin.length ++ origin.drop stream.length
  filled : page.filled = min origin.length stream.length
  lost : page.lost = decide (origin.length < stream.length)

theorem holds_blank (buffer : List UInt8) : (blank buffer).Holds buffer [] where
  buffer := by rw [List.take_nil, List.nil_append]; rfl
  filled := (Nat.min_zero _).symm
  lost := rfl

namespace Holds

variable {page : Page} {origin stream : List UInt8}

theorem length_buffer (h : page.Holds origin stream) : page.buffer.length = origin.length := by
  rw [h.buffer, List.length_append, List.length_take, List.length_drop]
  omega

theorem written (h : page.Holds origin stream) : page.written = stream.take origin.length := by
  have hlength : (stream.take origin.length).length = page.filled := by
    rw [List.length_take, h.filled]
  rw [Page.written, h.buffer, List.take_left' hlength]

theorem buffer_eq (h : page.Holds origin stream) :
    page.buffer = stream.take page.filled ++ origin.drop page.filled := by
  have hdrop : origin.drop (min origin.length stream.length) = origin.drop stream.length := by
    rw [List.drop_eq_drop_iff]
    omega
  rw [h.buffer, h.filled, hdrop, ← List.take_eq_take_min]

/-- A page that has lost nothing has room for the whole stream. -/
theorem length_le (h : page.Holds origin stream) (hkept : page.lost = false) :
    stream.length ≤ origin.length := by
  have hlost := h.lost
  rw [hkept] at hlost
  exact Nat.not_lt.mp (of_decide_eq_false hlost.symm)

/-- **Writing more makes a page hold more**, as far as there is room. -/
theorem write (h : page.Holds origin stream) (bytes : List UInt8) :
    (page.write bytes).Holds origin (stream ++ bytes) := by
  cases hlost : page.lost with
  | true =>
    have hlt : origin.length < stream.length := of_decide_eq_true (h.lost.symm.trans hlost)
    rw [write_of_lost hlost]
    refine ⟨?_, ?_, ?_⟩
    · rw [h.buffer, List.take_append_of_le_length (Nat.le_of_lt hlt), List.drop_of_length_le
        (Nat.le_of_lt hlt), List.drop_of_length_le]
      rw [List.length_append]
      omega
    · rw [h.filled, List.length_append]
      omega
    · rw [hlost, List.length_append]
      exact (decide_eq_true (by omega)).symm
  | false =>
    have hle := h.length_le hlost
    have hfilled : page.filled = stream.length := h.filled.trans (Nat.min_eq_right hle)
    have hbuffer : page.buffer = stream ++ origin.drop stream.length := by
      rw [h.buffer, List.take_of_length_le hle]
    have hlength := h.length_buffer
    have hkept : (bytes.take (origin.length - stream.length)).length
        = min (origin.length - stream.length) bytes.length := List.length_take ..
    refine ⟨?_, ?_, ?_⟩
    · have hrest : origin.drop (stream.length + (bytes.take (origin.length - stream.length)).length)
          = origin.drop (stream.length + bytes.length) := by
        rw [List.drop_eq_drop_iff]
        omega
      simp only [Page.write, hlength, hfilled]
      rw [overwrite, hbuffer, List.take_left, List.drop_append, List.drop_of_length_le
        (Nat.le_add_right ..), List.nil_append, List.drop_drop, Nat.add_sub_cancel_left, hrest,
        List.take_append, List.take_of_length_le hle, List.length_append]
    · simp only [Page.write, hlength, hfilled]
      rw [List.length_append]
      omega
    · simp only [Page.write, hlength, hfilled, hlost, Bool.false_or]
      rw [decide_eq_decide, List.length_append]
      omega

theorem put (h : page.Holds origin stream) (byte : UInt8) :
    (page.put byte).Holds origin (stream ++ [byte]) := by
  rw [put_eq_write]
  exact h.write [byte]

theorem foldl_write (h : page.Holds origin stream) (pieces : List (List UInt8)) :
    (pieces.foldl Page.write page).Holds origin (stream ++ pieces.flatten) := by
  induction pieces generalizing page stream with
  | nil => rwa [List.flatten_nil, List.append_nil]
  | cons piece pieces ih =>
    rw [List.flatten_cons, ← List.append_assoc]
    exact ih (h.write piece)

/-- Bytes that find no room may as well be others. -/
theorem of_take_eq (h : page.Holds origin stream) {stream' : List UInt8}
    (hlength : stream.length = stream'.length)
    (htake : stream.take origin.length = stream'.take origin.length) :
    page.Holds origin stream' where
  buffer := by rw [h.buffer, htake, hlength]
  filled := by rw [h.filled, hlength]
  lost := by rw [h.lost, hlength]

end Holds

end Page

end VehicleLink
