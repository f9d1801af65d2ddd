import VehicleLink.Proofs.Text.Pieces
import VehicleLink.Sentence.Receiver

/-!
# Proofs/Sentence/Layout — a sentence cut out of its body

`cutText` cuts a body as a text: at its commas, and the first piece into talker and identifier.  A
reception never sees the text; it keeps places (`Reception.Marks`) and cuts bytes at them.  Once the
places are those of all pieces, it cuts out the same sentence (`Reception.Marks.sentence_eq`).

What a line break reports is settled by the body and the two bytes behind its star (`verdict`).
These are looked up among the sixteen digits, and the reader finds the same values
(`digitValue?_eq_digit?`).
-/

namespace VehicleLink.Sentence

/-! ## Cutting a text -/

/-- The talker and the identifier at the start of a header: its first two bytes and the three after
them.  Both are empty if the header has fewer than five bytes, or if one of the two cuts falls
inside a character. -/
def cutHeader (header : String) : String × String :=
  if 5 ≤ (utf8 header).length then
    match text? ((utf8 header).take 2), text? (((utf8 header).drop 2).take 3) with
    | some talker, some id => (talker, id)
    | _, _ => ("", "")
  else ("", "")

/-- A talker of two bytes and an identifier of three are told apart. -/
theorem cutHeader_append {talker id : String} (htalker : (utf8 talker).length = 2)
    (hid : (utf8 id).length = 3) : cutHeader (talker ++ id) = (talker, id) := by
  have hlength : 5 ≤ (utf8 talker ++ utf8 id).length := by
    rw [List.length_append]
    omega
  rw [cutHeader, utf8_append, if_pos hlength, List.take_left' htalker, List.drop_left' htalker,
    List.take_of_length_le (Nat.le_of_eq hid), text?_utf8, text?_utf8]

/-- The sentence with a body: the header before the first comma, and of the pieces behind it the
first 32. -/
def cutText (text : String) : RawSentence :=
  let pieces := commaPieces text
  let (talker, id) := cutHeader (pieces.headD "")
  { talker, id, fields := pieces.tail.take 32, length_le := by exact List.length_take_le .. }

/-- A received sentence keeps no other pieces. -/
theorem cutText_eq_ofFields (text : String) :
    cutText text = .ofFields (cutHeader ((commaPieces text).headD "")).1
      (cutHeader ((commaPieces text).headD "")).2 (commaPieces text).tail := rfl

/-! ## Digits -/

/-- The value of a byte as a digit of base sixteen: its place among the digits, in small letters or in
capitals. -/
def digit? (byte : UInt8) : Option Nat :=
  let c := Char.ofNat byte.toNat
  "0123456789abcdef".toList.idxOf? c <|> "0123456789ABCDEF".toList.idxOf? c

/-- **The reader of checksums knows the same digits.** -/
theorem digitValue?_eq_digit? (byte : UInt8) : Hex.digitValue? byte = digit? byte := by
  have hall : ∀ n < 256, Hex.digitValue? (UInt8.ofNat n) = digit? (UInt8.ofNat n) := by
    decide +kernel
  have hbyte := hall byte.toNat byte.toNat_lt
  rwa [UInt8.ofNat_toNat] at hbyte

theorem digit?_upperDigit {n : Nat} (h : n < 16) : digit? (Hex.upperDigit n) = some n := by
  rw [← digitValue?_eq_digit?, Hex.digitValue?_upperDigit h]

/-! ## The bytes after a start character -/

/-- What the line break after a body and its two digits reports.  Bad digits come before a checksum
that differs, and that before a body that is not text. -/
def verdict (body : List UInt8) (high low : UInt8) : Event RawSentence :=
  match digit? high, digit? low with
  | some high, some low =>
    let expected := body.foldl (· ^^^ ·) 0
    let actual := UInt8.ofNat (16 * high + low)
    if actual ≠ expected then .error (.checksumMismatch expected.toUInt16 actual.toUInt16)
    else
      match text? body with
      | some text => .ok (cutText text)
      | none => .error .protocolViolation
  | _, _ => .error .invalidChecksumDigit

/-- The digits of the right checksum are accepted. -/
theorem verdict_digits (body : List UInt8) :
    verdict body (Checksum.digits (Checksum.ofBytes body)).1
        (Checksum.digits (Checksum.ofBytes body)).2
      = match text? body with
        | some text => .ok (cutText text)
        | none => .error .protocolViolation := by
  have hlt := (Checksum.ofBytes body).toNat_lt
  have hsum : UInt8.ofNat (16 * ((Checksum.ofBytes body).toNat / 16)
      + (Checksum.ofBytes body).toNat % 16) = body.foldl (· ^^^ ·) 0 := by
    rw [Nat.div_add_mod, UInt8.ofNat_toNat]
    rfl
  rw [verdict, Checksum.digits, digit?_upperDigit (by omega), digit?_upperDigit (by omega)]
  simp only [hsum, ne_eq, not_true_eq_false, if_false]

/-- The event of the bytes after the star, and how many of them it takes: two digits of any value, a
carriage return and a line feed.  The first byte that deviates is taken too. -/
def ending (body : List UInt8) : (tail : List UInt8) → Option (Nat × Event RawSentence)
  | high :: low :: carriageReturn :: tail =>
    if carriageReturn ≠ 0x0D then some (3, .error .protocolViolation)
    else
      tail.head?.map fun lineFeed =>
        (4, if lineFeed = 0x0A then verdict body high low else .error .protocolViolation)
  | _ => none

theorem ending_carriageReturn {byte : UInt8} (h : byte ≠ 0x0D) (body : List UInt8)
    (high low : UInt8) (tail : List UInt8) :
    ending body (high :: low :: byte :: tail) = some (3, .error .protocolViolation) :=
  if_pos h

theorem ending_lineFeed (body : List UInt8) (high low byte : UInt8) (tail : List UInt8) :
    ending body (high :: low :: 0x0D :: byte :: tail)
      = some (4, if byte = 0x0A then verdict body high low else .error .protocolViolation) := rfl

/-- Whether a byte belongs to a body: any but a star and a line feed. -/
def isBody (byte : UInt8) : Bool := byte ≠ 0x2A && byte ≠ 0x0A

theorem isBody_eq_false_iff {byte : UInt8} : isBody byte = false ↔ byte = 0x2A ∨ byte = 0x0A := by
  rw [isBody, Bool.and_eq_false_iff, decide_eq_false_iff_not, decide_eq_false_iff_not,
    Decidable.not_not, Decidable.not_not]

/-- The first event of the bytes after a start character, and how many of them it takes. -/
def firstEvent (config : Config) (bytes : List UInt8) : Option (Nat × Event RawSentence) :=
  let body := bytes.takeWhile isBody
  if config.capacity < body.length then some (config.capacity + 1, .error .overrun)
  else
    match bytes.drop body.length with
    | [] => none
    | byte :: tail =>
      if byte = 0x0A then some (body.length + 1, .error .protocolViolation)
      else (ending body tail).map fun (taken, event) => (body.length + 1 + taken, event)

section FirstEvent

variable {config : Config} {body : List UInt8} (hbody : ∀ byte ∈ body, isBody byte)
  (hfits : body.length ≤ config.capacity)

include hbody

theorem takeWhile_body (byte : UInt8) (hbyte : isBody byte = false) (tail : List UInt8) :
    (body ++ byte :: tail).takeWhile isBody = body := by
  rw [List.takeWhile_append_of_pos hbody, List.takeWhile_cons_of_neg (by rw [hbyte]; decide),
    List.append_nil]

/-- A body that finds no room ends at the first byte behind the room. -/
theorem firstEvent_of_full (hfull : config.capacity < body.length) (tail : List UInt8) :
    firstEvent config (body ++ tail) = some (config.capacity + 1, .error .overrun) := by
  have hover : config.capacity < ((body ++ tail).takeWhile isBody).length := by
    rw [List.takeWhile_append_of_pos hbody, List.length_append]
    exact Nat.lt_add_right _ hfull
  exact if_pos hover

include hfits

/-- A body that the stream breaks off causes no event. -/
theorem firstEvent_body : firstEvent config body = none := by
  have htake : (body ++ []).takeWhile isBody = body ++ [] := List.takeWhile_append_of_pos hbody
  rw [List.append_nil] at htake
  simp only [firstEvent, htake, if_neg (Nat.not_lt.mpr hfits), List.drop_length]

theorem firstEvent_lineFeed (tail : List UInt8) :
    firstEvent config (body ++ 0x0A :: tail)
      = some (body.length + 1, .error .protocolViolation) := by
  have htake := takeWhile_body hbody 0x0A rfl tail
  simp only [firstEvent, htake, if_neg (Nat.not_lt.mpr hfits), List.drop_left, if_true]

theorem firstEvent_star (tail : List UInt8) :
    firstEvent config (body ++ 0x2A :: tail)
      = (ending body tail).map fun (taken, event) => (body.length + 1 + taken, event) := by
  have htake := takeWhile_body hbody 0x2A rfl tail
  have hne : (0x2A : UInt8) ≠ 0x0A := by decide
  simp only [firstEvent, htake, if_neg (Nat.not_lt.mpr hfits), List.drop_left, if_neg hne]

/-- The byte that finds no room is the one behind a full body. -/
theorem firstEvent_overrun (hfull : config.capacity ≤ body.length) {byte : UInt8}
    (hbyte : isBody byte) (tail : List UInt8) :
    firstEvent config (body ++ byte :: tail) = some (body.length + 1, .error .overrun) := by
  have hall : ∀ b ∈ body ++ [byte], isBody b :=
    List.forall_mem_append.mpr ⟨hbody, List.forall_mem_singleton.mpr hbyte⟩
  have hover : config.capacity < (body ++ [byte]).length := by
    rw [List.length_append]
    exact Nat.lt_succ_of_le hfull
  have hevent := firstEvent_of_full hall hover tail
  rwa [List.append_assoc, Nat.le_antisymm hfull hfits] at hevent

end FirstEvent

/-! ## Cutting at places -/

namespace Reception

theorem slice?_append (before piece after : List UInt8) :
    slice? (before ++ (piece ++ after)) before.length (before.length + piece.length)
      = text? piece := by
  have hin : before.length ≤ before.length + piece.length
      ∧ before.length + piece.length ≤ (before ++ (piece ++ after)).length := by
    simp only [List.length_append]
    omega
  rw [slice?, if_pos hin, List.take_length_add_append, List.take_left, List.drop_left]

theorem splitHeader_utf8 (header : String) : splitHeader (utf8 header) = cutHeader header := by
  have hid : slice? (utf8 header) 2 5
      = if 5 ≤ (utf8 header).length then text? (((utf8 header).drop 2).take 3) else none := by
    simp only [slice?, List.drop_take, (by decide : 2 ≤ 5), true_and]
  rw [splitHeader, cutHeader, hid]
  by_cases hlong : 5 ≤ (utf8 header).length
  · have htalker : slice? (utf8 header) 0 2 = text? ((utf8 header).take 2) :=
      if_pos ⟨Nat.zero_le _, Nat.le_trans (by decide) hlong⟩
    rw [htalker, if_pos hlong]
    exact (if_pos hlong).symm
  · rw [if_neg hlong, if_neg hlong]
    split
    · next h => cases h
    · rfl

/-- The places that are kept once these pieces of the body are closed: where the header ends, and
where the first fields after it lie, as many as are kept. -/
structure Marks (r : Reception) (closed : List (List UInt8)) : Prop where
  headerEnd : r.headerEnd = (spans 0 closed).head?.map Prod.snd
  ranges : r.ranges = (spans 0 closed).tail.take maxFields

theorem take_append_singleton {α : Type} (n : Nat) (xs : List α) (x : α) :
    (xs ++ [x]).take n = if (xs.take n).length < n then xs.take n ++ [x] else xs.take n := by
  rw [List.length_take]
  split
  · next h =>
    have hlt : xs.length < n := by omega
    rw [List.take_of_length_le (Nat.le_of_lt hlt), List.take_of_length_le]
    rw [List.length_append]
    exact hlt
  · next h =>
    have hle : n ≤ xs.length := by omega
    rw [List.take_append_of_le_length hle]

@[simp] theorem closeField_body (r : Reception) : r.closeField.body = r.body := by
  rw [closeField]
  split
  · rfl
  · exact (apply_ite Reception.body ..).trans (ite_self _)

@[simp] theorem closeField_checksum (r : Reception) : r.closeField.checksum = r.checksum := by
  rw [closeField]
  split
  · rfl
  · exact (apply_ite Reception.checksum ..).trans (ite_self _)

@[simp] theorem closeField_phase (r : Reception) : r.closeField.phase = r.phase := by
  rw [closeField]
  split
  · rfl
  · exact (apply_ite Reception.phase ..).trans (ite_self _)

/-- Behind the header a field is closed, as long as there is room for another one. -/
theorem closeField_of_header {r : Reception} {place : Nat} (h : r.headerEnd = some place) :
    r.closeField.headerEnd = some place ∧
      r.closeField.ranges = if r.ranges.length < maxFields
        then r.ranges ++ [(r.fieldStart, r.body.length)] else r.ranges := by
  rw [closeField, h]
  by_cases hroom : r.ranges.length < maxFields
  · simp only [hroom, if_true, and_self]
  · simp only [hroom, if_false, h, and_self]

/-- **Closing a field keeps the places right.** -/
theorem Marks.closeField {r : Reception} {closed : List (List UInt8)} {last : List UInt8}
    (h : r.Marks closed) (hsplit : commaPiecesOf r.body = closed ++ [last])
    (hstart : r.fieldStart = width closed) : r.closeField.Marks (closed ++ [last]) := by
  have hspans : spans 0 (closed ++ [last]) = spans 0 closed ++ [(r.fieldStart, r.body.length)] := by
    rw [spans_append, spans, spans, Nat.zero_add, ← hstart, ← width_add_length hsplit, ← hstart]
  have hheaderEnd := h.headerEnd
  have hranges := h.ranges
  cases closed with
  | nil =>
    -- The first piece is the header, and no field is closed.
    rw [Reception.closeField, hheaderEnd]
    constructor
    · rw [hspans]
      rfl
    · rw [hspans]
      exact hranges
  | cons piece closed =>
    obtain ⟨hheaderEnd', hranges'⟩ := closeField_of_header hheaderEnd
    constructor
    · rw [hheaderEnd', hspans]
      rfl
    · rw [hranges', hranges, hspans, ← take_append_singleton]
      rfl

theorem take_headerEnd {r : Reception} {header : List UInt8} {fields : List (List UInt8)}
    (h : r.Marks (header :: fields)) (hsplit : commaPiecesOf r.body = header :: fields) :
    r.body.take (r.headerEnd.getD 0) = header := by
  have hcut := map_slice_spans r.body
  rw [hsplit] at hcut
  have hhead : (r.body.take (0 + header.length)).drop 0 = header := (List.cons_eq_cons.mp hcut).1
  rw [h.headerEnd]
  exact hhead

/-- **With the places of all pieces at hand, a reception cuts out the sentence of its body**, if the
body is a text. -/
theorem Marks.sentence_eq {r : Reception} (h : r.Marks (commaPiecesOf r.body)) :
    r.sentence = match text? r.body with
      | some text => .ok (cutText text)
      | none => .error .protocolViolation := by
  rw [sentence]
  cases htext : text? r.body with
  | none => rfl
  | some text =>
    have hbody : utf8 text = r.body := text?_eq_some_iff.mp htext
    have hpieces : commaPiecesOf r.body = (commaPieces text).map utf8 := by
      rw [← hbody, commaPiecesOf_utf8]
    have hcut : (spans 0 (commaPiecesOf r.body)).map
        (fun range => (slice? r.body range.1 range.2).getD "")
          = (commaPiecesOf r.body).map fun piece => (text? piece).getD "" := by
      refine map_spans fun before piece after hsplit => ?_
      rw [← hsplit]
      exact congrArg (Option.getD · "") (slice?_append before piece after)
    have hread : (fun piece => (text? piece).getD "") ∘ utf8 = id := by
      funext piece
      rw [Function.comp_apply, text?_utf8]
      rfl
    have hfields : r.ranges.map (fun range => (slice? r.body range.1 range.2).getD "")
        = (commaPieces text).tail.take maxFields := by
      rw [h.ranges, List.map_take, List.map_tail, hcut, hpieces, List.map_map, hread, List.map_id]
    obtain ⟨header, fields, hcons⟩ := List.exists_cons_of_ne_nil (commaPieces_ne_nil text)
    have hheader : r.body.take (r.headerEnd.getD 0) = utf8 header := by
      rw [hcons, List.map_cons] at hpieces
      rw [hpieces] at h
      exact take_headerEnd h hpieces
    have hofFields (talker id : String) : RawSentence.ofFields talker id
        (r.ranges.map fun range => (slice? r.body range.1 range.2).getD "")
        = .ofFields talker id (commaPieces text).tail := by
      simp only [RawSentence.ofFields, hfields, List.take_take, Nat.min_self]
    simp only [hofFields, hheader, splitHeader_utf8, cutText_eq_ofFields, hcons, List.headD_cons]

end Reception

end VehicleLink.Sentence
