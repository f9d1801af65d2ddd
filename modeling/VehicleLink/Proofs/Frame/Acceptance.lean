import Mathlib.Data.List.Basic
import VehicleLink.Proofs.Frame.Collecting

/-!
# Proofs/Frame/Acceptance — which bytes are frames, and what is lost in cutting them

Bytes are cut exactly when they start with a marker and are as long as they announce; a first byte
that is no marker is refused as such, and everything else for want of bytes
(`ofBytes_accepts_whole_frames`).  Nothing is lost: the parts, laid out one after the other, are the
bytes again, but for the flags that no version defines (`toBytes_cut`).
-/

namespace VehicleLink

namespace Frame

/-! ## Bytes that are refused -/

theorem ofBytes_of_unknown {marker : UInt8} (h : Version.ofMarker? marker = none)
    (rest : List UInt8) : ofBytes (marker :: rest) = .error (.invalidMarker marker) := by
  rw [ofBytes, h]

theorem read?_eq_none (version : Version) {marker : UInt8} {bytes : List UInt8}
    (h : (marker :: bytes).length < version.headerLength) : Header.read? version bytes = none := by
  rw [Header.read?.eq_def]
  split
  · simp only [List.length_cons, Version.headerLength] at h
    omega
  · simp only [List.length_cons, Version.headerLength] at h
    omega
  · rfl

theorem splitAt?_eq_none {count : Nat} {bytes : List UInt8} (h : bytes.length < count) :
    splitAt? count bytes = none :=
  if_neg (Nat.not_le.mpr h)

/-- What follows the header is refused if a part of it breaks off. -/
theorem readBody?_eq_none (header : Header) {bytes : List UInt8}
    (h : bytes.length < header.payloadLength.toNat + checksumLength
      + (if header.isSigned then signatureLength else 0)) : readBody? header bytes = none := by
  rcases Nat.lt_or_ge bytes.length header.payloadLength.toNat with hshort | hpayload
  · rw [readBody?, splitAt?_eq_none hshort]
    rfl
  have hdrop : (bytes.drop header.payloadLength.toNat).length
      = bytes.length - header.payloadLength.toNat := List.length_drop
  rcases Nat.lt_or_ge (bytes.drop header.payloadLength.toNat).length checksumLength with
    hshort | hchecksum
  · simp only [readBody?, splitAt?_eq hpayload, Option.bind_eq_bind, Option.bind_some,
      splitAt?_eq_none hshort]
    rfl
  cases hsigned : header.isSigned with
  | false =>
    rw [hsigned] at h
    simp only [Bool.false_eq_true, if_false] at h
    omega
  | true =>
    rw [hsigned] at h
    have hshort : ((bytes.drop header.payloadLength.toNat).drop checksumLength).length
        < signatureLength := by
      simp only [if_true] at h
      rw [List.length_drop]
      omega
    simp only [readBody?, splitAt?_eq hpayload, Option.bind_eq_bind, Option.bind_some,
      splitAt?_eq hchecksum, hsigned, if_true, splitAt?_eq_none hshort]
    rfl

/-- **Bytes that end before the frame does are refused**, wherever they end. -/
theorem ofBytes_of_short (version : Version) {bytes : List UInt8}
    (hmarker : bytes.head? = some version.marker)
    (hshort : bytes.length < totalLength version bytes) : ofBytes bytes = .error .overrun := by
  obtain ⟨bytes, rfl⟩ := List.head?_eq_some_iff.mp hmarker
  rw [ofBytes, Version.ofMarker?_eq_some_iff.mpr rfl]
  rcases Nat.lt_or_ge (version.marker :: bytes).length version.headerLength with hheader | hheader
  · simp only [read?_eq_none version hheader]
  · have hannounced := headerLength_add_announced version (version.marker :: bytes)
    have hbody : ((version.marker :: bytes).drop version.headerLength).length
        < (cutHeader version (version.marker :: bytes)).payloadLength.toNat + checksumLength
          + (if (cutHeader version (version.marker :: bytes)).isSigned then signatureLength
            else 0) := by
      rw [List.length_drop]
      omega
    simp only [read?_eq_cutHeader version hheader, readBody?_eq_none _ hbody]

/-! ## The parts as bytes -/

/-- The flags of a frame as bytes; version one has none. -/
def flagBytes (frame : Frame) : List UInt8 :=
  match frame.version with
  | .v1 => []
  | .v2 => [UInt8.ofNat frame.header.incompat.toNat, frame.header.compat]

/-- How many bytes an identifier has. -/
def identifierLength : Version → Nat
  | .v1 => 1
  | .v2 => 3

/-- The parts of a frame in the order in which they are sent, each as bytes. -/
def toBytes (frame : Frame) : List UInt8 :=
  [frame.version.marker, UInt8.ofNat frame.payload.length] ++ frame.flagBytes
    ++ [frame.header.sequence, frame.header.systemId, frame.header.componentId]
    ++ littleEndian (identifierLength frame.version) frame.header.messageId
    ++ (frame.payload ++ littleEndian checksumLength frame.checksum.toNat
      ++ frame.signature.getD [])

/-- The bytes of a frame without its reserved flags: all of the third byte but bit 0, in version
two. -/
def clearReserved : (version : Version) → (bytes : List UInt8) → List UInt8
  | .v1, bytes => bytes
  | .v2, bytes => bytes.modify 2 (· &&& 1)

theorem clearReserved_append {version : Version} {bytes : List UInt8}
    (h : version.announcedAt ≤ bytes.length) (rest : List UInt8) :
    clearReserved version (bytes ++ rest) = clearReserved version bytes ++ rest := by
  cases version with
  | v1 => rfl
  | v2 =>
    match bytes, h with
    | _ :: _ :: _ :: _, _ => rfl

theorem ofNat_toNat_incompat (byte : UInt8) :
    UInt8.ofNat (Flags.ofNat byte.toNat : Flags .incompat).toNat = byte &&& 1 := by
  have hflags : (Flags.ofNat byte.toNat : Flags .incompat).toNat = byte.toNat % 2 :=
    BitVec.toNat_ofNat ..
  have hlt : byte.toNat % 2 < 256 := Nat.lt_trans (Nat.mod_lt _ Nat.two_pos) (by decide)
  apply UInt8.toNat_inj.mp
  rw [hflags, UInt8.toNat_and, UInt8.toNat_ofNat_of_lt' hlt]
  exact (Nat.and_one_is_mod _).symm

section Cut

variable {version : Version} {bytes : List UInt8} (h : totalLength version bytes ≤ bytes.length)

include h

theorem payloadEnd_le_length : payloadEnd version bytes ≤ bytes.length := by
  rw [totalLength] at h
  omega

theorem length_payload_cut : (cut version bytes).payload.length = (bytes.getD 1 0).toNat := by
  have hend := payloadEnd_le_length h
  rw [cut, List.length_drop, List.length_take_of_le hend, payloadEnd, Nat.add_sub_cancel_left]

/-- The checksum is spelled by the bytes that it was read from. -/
theorem littleEndian_checksum_cut :
    littleEndian checksumLength (cut version bytes).checksum.toNat
      = (bytes.drop (payloadEnd version bytes)).take checksumLength := by
  have hlength : ((bytes.drop (payloadEnd version bytes)).take checksumLength).length = 2 := by
    rw [totalLength] at h
    rw [List.length_take, List.length_drop, checksumLength] at *
    omega
  rw [cut]
  obtain ⟨low, high, hbytes⟩ := List.length_eq_two.mp hlength
  have hlow := low.toNat_lt
  have hhigh := high.toNat_lt
  have hlt : ofLittleEndian [low, high] < UInt16.size := by
    simp only [ofLittleEndian, UInt16.size]
    omega
  rw [hbytes, UInt16.toNat_ofNat_of_lt' hlt]
  exact littleEndian_ofLittleEndian [low, high]

/-- The parts behind the header are the bytes behind it. -/
theorem cut_body :
    (cut version bytes).payload ++ littleEndian checksumLength (cut version bytes).checksum.toNat
        ++ (cut version bytes).signature.getD []
      = (bytes.take (totalLength version bytes)).drop version.headerLength := by
  have hend := payloadEnd_le_length h
  have hsignature : (cut version bytes).signature.getD []
      = (bytes.drop (payloadEnd version bytes + checksumLength)).take
          (signatureRoom version bytes) := by
    rw [cut, signatureRoom]
    cases endsSigned version bytes <;> rfl
  have hheader : version.headerLength ≤ (bytes.take (payloadEnd version bytes)).length := by
    rw [List.length_take_of_le hend]
    exact Nat.le_add_right ..
  change _ = (bytes.take (payloadEnd version bytes + checksumLength
    + signatureRoom version bytes)).drop version.headerLength
  rw [littleEndian_checksum_cut h, hsignature, List.take_add, List.take_add, List.append_assoc,
    List.append_assoc, List.drop_append_of_le_length hheader]
  rfl

end Cut

/-- **The parts of a frame's header, laid out in order, are its bytes**, but for the reserved
flags. -/
theorem cut_head {version : Version} {bytes : List UInt8}
    (hmarker : bytes.head? = some version.marker) (h : version.headerLength ≤ bytes.length) :
    [version.marker, bytes.getD 1 0] ++ (cut version bytes).flagBytes
        ++ [(cut version bytes).header.sequence, (cut version bytes).header.systemId,
          (cut version bytes).header.componentId]
        ++ littleEndian (identifierLength version) (cut version bytes).header.messageId
      = clearReserved version (bytes.take version.headerLength) := by
  obtain ⟨bytes, rfl⟩ := List.head?_eq_some_iff.mp hmarker
  cases version with
  | v1 =>
    match bytes, h with
    | _ :: _ :: _ :: _ :: id :: _, _ =>
      have hid : littleEndian 1 id.toNat = [id] := littleEndian_ofLittleEndian [id]
      exact congrArg (_ ++ ·) hid
  | v2 =>
    match bytes, h with
    | len :: incompat :: compat :: seq :: sys :: comp :: id₀ :: id₁ :: id₂ :: rest, _ =>
      have hid : littleEndian 3 (id₀.toNat + 256 * id₁.toNat + 65536 * id₂.toNat)
          = [id₀, id₁, id₂] := by
        rw [← ofLittleEndian_three]
        exact littleEndian_ofLittleEndian [id₀, id₁, id₂]
      change [0xFD, len, UInt8.ofNat (Flags.ofNat incompat.toNat : Flags .incompat).toNat, compat,
          seq, sys, comp] ++ littleEndian 3 (id₀.toNat + 256 * id₁.toNat + 65536 * id₂.toNat)
        = [0xFD, len, incompat &&& 1, compat, seq, sys, comp] ++ [id₀, id₁, id₂]
      rw [hid, ofNat_toNat_incompat]

/-- **The parts of a frame, laid out in order, are the bytes that it was cut from**, but for the
reserved flags. -/
theorem toBytes_cut {version : Version} {bytes : List UInt8}
    (hmarker : bytes.head? = some version.marker)
    (h : totalLength version bytes ≤ bytes.length) :
    (cut version bytes).toBytes
      = clearReserved version (bytes.take (totalLength version bytes)) := by
  have hmin := headerLength_le_totalLength version bytes
  have hheader : version.headerLength ≤ bytes.length := by omega
  have hpayload : UInt8.ofNat (cut version bytes).payload.length = bytes.getD 1 0 := by
    rw [length_payload_cut h, UInt8.ofNat_toNat]
  have hannounced : version.announcedAt ≤ (bytes.take version.headerLength).length := by
    rw [List.length_take_of_le hheader]
    exact version.announcedAt_le_headerLength
  have hfront : (bytes.take (totalLength version bytes)).take version.headerLength
      = bytes.take version.headerLength := by
    rw [List.take_take, Nat.min_eq_left (Nat.le_of_add_right_le hmin)]
  have hsplit : bytes.take version.headerLength
        ++ (bytes.take (totalLength version bytes)).drop version.headerLength
      = bytes.take (totalLength version bytes) := by
    rw [← hfront, List.take_append_drop]
  rw [← hsplit, clearReserved_append hannounced, ← cut_head hmarker hheader, ← cut_body h, toBytes,
    hpayload]
  rfl

/-- A part of some bytes is the same if more bytes follow. -/
theorem take_drop_append {bytes : List UInt8} {place length : Nat}
    (h : place + length ≤ bytes.length) (rest : List UInt8) :
    ((bytes ++ rest).drop place).take length = (bytes.drop place).take length := by
  have hlength : length ≤ (bytes.drop place).length := by
    rw [List.length_drop]
    omega
  rw [List.drop_append_of_le_length (Nat.le_of_add_right_le h),
    List.take_append_of_le_length hlength]

theorem cutHeader_append {version : Version} {bytes : List UInt8}
    (h : version.headerLength ≤ bytes.length) (rest : List UInt8) :
    cutHeader version (bytes ++ rest) = cutHeader version bytes := by
  have hget (place : Nat) (hplace : place < version.headerLength) :
      (bytes ++ rest).getD place 0 = bytes.getD place 0 :=
    List.getD_append _ _ _ _ (Nat.lt_of_lt_of_le hplace h)
  cases version with
  | v1 =>
    simp only [cutHeader, hget 1 (by decide), hget 2 (by decide), hget 3 (by decide),
      hget 4 (by decide), hget 5 (by decide)]
  | v2 =>
    simp only [cutHeader, hget 1 (by decide), hget 2 (by decide), hget 3 (by decide),
      hget 4 (by decide), hget 5 (by decide), hget 6 (by decide), hget 7 (by decide),
      hget 8 (by decide), hget 9 (by decide)]

/-- **What follows a frame does not matter.** -/
theorem cut_append {version : Version} {bytes : List UInt8}
    (h : totalLength version bytes ≤ bytes.length) (rest : List UInt8) :
    cut version (bytes ++ rest) = cut version bytes := by
  have hmin := headerLength_le_totalLength version bytes
  have hend := payloadEnd_le_length h
  have hheader : version.headerLength ≤ bytes.length := by omega
  have hannounced := Nat.le_trans version.announcedAt_le_headerLength hheader
  have htwo : 2 ≤ bytes.length := Nat.le_trans version.two_le_announcedAt hannounced
  rw [totalLength] at h
  rw [cut, cutHeader_append hheader, payloadEnd_append htwo, endsSigned_append hannounced,
    List.take_append_of_le_length hend, take_drop_append (Nat.le_of_add_right_le h), cut]
  cases hsigned : endsSigned version bytes with
  | false => rfl
  | true =>
    rw [hsigned, if_pos rfl] at h
    rw [take_drop_append h]

/-! ## What is accepted -/

/-- What is made of some bytes. -/
inductive Assessed : (bytes : List UInt8) → Except LinkError Frame → Prop where
  | empty : Assessed [] (.error .overrun)
  | unknown {marker : UInt8} (h : Version.ofMarker? marker = none) (rest : List UInt8) :
    Assessed (marker :: rest) (.error (.invalidMarker marker))
  | short {version : Version} {bytes : List UInt8} (hmarker : bytes.head? = some version.marker)
    (h : bytes.length < totalLength version bytes) : Assessed bytes (.error .overrun)
  | whole {version : Version} {bytes : List UInt8} (hmarker : bytes.head? = some version.marker)
    (h : totalLength version bytes ≤ bytes.length) : Assessed bytes (.ok (cut version bytes))

theorem assessed_ofBytes (bytes : List UInt8) : Assessed bytes (ofBytes bytes) := by
  cases bytes with
  | nil => exact .empty
  | cons marker rest =>
    cases hversion : Version.ofMarker? marker with
    | none =>
      rw [ofBytes_of_unknown hversion]
      exact .unknown hversion rest
    | some version =>
      have hmarker : (marker :: rest).head? = some version.marker :=
        congrArg some (Version.ofMarker?_eq_some_iff.mp hversion)
      rcases Nat.lt_or_ge (marker :: rest).length (totalLength version (marker :: rest)) with
        hshort | hlong
      · rw [ofBytes_of_short version hmarker hshort]
        exact .short hmarker hshort
      · rw [ofBytes_eq_cut version hmarker hlong]
        exact .whole hmarker hlong

/-- **What a frame keeps of the bytes that it was cut from.** -/
structure Keeps (frame : Frame) (bytes : List UInt8) : Prop where
  payloadLength : frame.header.payloadLength.toNat = frame.payload.length
  /-- The parts in their order are the bytes of the frame, but for the reserved flags. -/
  parts : frame.toBytes
    = clearReserved frame.version (bytes.take (totalLength frame.version bytes))
  covered : frame.covered
    = (bytes.take (frame.version.headerLength + (bytes.getD 1 0).toNat)).drop 1
  /-- What follows the bytes of the frame does not matter. -/
  alone : ∀ other : List UInt8,
    other.take (totalLength frame.version bytes) = bytes.take (totalLength frame.version bytes) →
      ofBytes other = .ok frame

/-- Bytes that agree as far as the frame goes are cut into the same frame. -/
theorem ofBytes_of_take_eq {version : Version} {bytes : List UInt8}
    (hmarker : bytes.head? = some version.marker) (h : totalLength version bytes ≤ bytes.length)
    {other : List UInt8}
    (hother : other.take (totalLength version bytes) = bytes.take (totalLength version bytes)) :
    ofBytes other = .ok (cut version bytes) := by
  have hmin := headerLength_le_totalLength version bytes
  have hlength : (bytes.take (totalLength version bytes)).length = totalLength version bytes :=
    List.length_take_of_le h
  have hbytes := List.take_append_drop (totalLength version bytes) bytes
  rw [← List.take_append_drop (totalLength version bytes) other, hother]
  generalize bytes.take (totalLength version bytes) = front at hlength hbytes ⊢
  have hannounced : version.announcedAt ≤ front.length :=
    Nat.le_trans version.announcedAt_le_headerLength (by omega)
  have htotal : totalLength version front = front.length := by
    rw [hlength, ← totalLength_append hannounced, hbytes]
  have hcut : cut version bytes = cut version front := by
    rw [← hbytes, cut_append (Nat.le_of_eq htotal)]
  rw [hcut, ← cut_append (Nat.le_of_eq htotal) (other.drop (totalLength version bytes))]
  refine ofBytes_eq_cut version ?_ ?_
  · cases front with
    | nil =>
      have htwo := version.two_le_announcedAt
      rw [List.length_nil] at hannounced
      omega
    | cons byte front => rwa [← hbytes] at hmarker
  · rw [totalLength_append hannounced, htotal, List.length_append]
    exact Nat.le_add_right ..

theorem keeps_cut {version : Version} {bytes : List UInt8}
    (hmarker : bytes.head? = some version.marker)
    (h : totalLength version bytes ≤ bytes.length) : (cut version bytes).Keeps bytes where
  payloadLength := by
    rw [length_payload_cut h, ← payloadLength_cutHeader]
    rfl
  parts := toBytes_cut hmarker h
  covered := rfl
  alone _ := ofBytes_of_take_eq hmarker h

/-- **Bytes are cut exactly when they are a whole frame, and nothing of it is lost.**

A first byte that is no marker is refused as such.  Bytes that start with a marker are cut if and
only if they hold the header and all that it announces; in every other case, none at all included,
they are refused for want of bytes, and no other error happens.  The parts of a frame give its bytes
again, but for the reserved flags, and no byte behind the frame has a say in it. -/
theorem ofBytes_accepts_whole_frames (bytes : List UInt8) :
    (∀ marker, ofBytes bytes = .error (.invalidMarker marker)
      ↔ bytes.head? = some marker ∧ marker ≠ 0xFD ∧ marker ≠ 0xFE) ∧
    ((∃ frame, ofBytes bytes = .ok frame) ↔ ∃ version : Version,
      bytes.head? = some version.marker ∧ version.headerLength ≤ bytes.length ∧
        totalLength version bytes ≤ bytes.length) ∧
    (ofBytes bytes = .error .overrun ↔ bytes = [] ∨ ∃ version : Version,
      bytes.head? = some version.marker ∧
        (bytes.length < version.headerLength ∨ bytes.length < totalLength version bytes)) ∧
    (∀ error, ofBytes bytes = .error error →
      error = .overrun ∨ ∃ marker, error = .invalidMarker marker) ∧
    ∀ frame, ofBytes bytes = .ok frame → frame.Keeps bytes := by
  have hassessed := assessed_ofBytes bytes
  refine ⟨fun marker => ⟨fun h => ?_, ?_⟩, ⟨?_, ?_⟩, ⟨fun h => ?_, ?_⟩, fun error h => ?_,
    fun frame h => ?_⟩
  · rw [h] at hassessed
    cases hassessed with
    | unknown hmarker rest => exact ⟨rfl, Version.ofMarker?_eq_none_iff.mp hmarker⟩
  · rintro ⟨hhead, hmarker⟩
    obtain ⟨rest, rfl⟩ := List.head?_eq_some_iff.mp hhead
    exact ofBytes_of_unknown (Version.ofMarker?_eq_none_iff.mpr hmarker) rest
  · rintro ⟨frame, h⟩
    rw [h] at hassessed
    cases hassessed with
    | @whole version bytes hmarker hlength =>
      have hmin := headerLength_le_totalLength version bytes
      exact ⟨version, hmarker, by omega, hlength⟩
  · rintro ⟨version, hmarker, -, hlength⟩
    exact ⟨_, ofBytes_eq_cut version hmarker hlength⟩
  · rw [h] at hassessed
    cases hassessed with
    | empty => exact .inl rfl
    | short hmarker hshort => exact .inr ⟨_, hmarker, .inr hshort⟩
  · rintro (rfl | ⟨version, hmarker, hshort⟩)
    · rfl
    · have hmin := headerLength_le_totalLength version bytes
      exact ofBytes_of_short version hmarker (by omega)
  · rw [h] at hassessed
    cases hassessed with
    | empty => exact .inl rfl
    | unknown => exact .inr ⟨_, rfl⟩
    | short => exact .inl rfl
  · rw [h] at hassessed
    cases hassessed with
    | whole hmarker hlength => exact keeps_cut hmarker hlength

/-- A signed frame with a reserved flag set and a byte behind it, the same frame without the last
byte of its signature, and a byte that starts no frame. -/
theorem ofBytes_accepts_whole_frames_signed :
    let signed : List UInt8 := [0xFD, 1, 3, 7, 9, 1, 2, 0x10, 0x27, 0, 0xAB, 0x34, 0x12,
      1, 2, 3, 4, 5, 6, 7, 8, 9, 10, 11, 12, 13]
    (∃ frame, ofBytes (signed ++ [0xFF]) = .ok frame ∧ frame.Keeps (signed ++ [0xFF])) ∧
      clearReserved .v2 signed = signed.set 2 1 ∧
      ofBytes (signed.take 25) = .error .overrun ∧
      ofBytes [0x55] = .error (.invalidMarker 0x55) := by
  intro signed
  obtain ⟨-, hwhole, -, -, hkeeps⟩ := ofBytes_accepts_whole_frames (signed ++ [0xFF])
  obtain ⟨-, -, hshort, -⟩ := ofBytes_accepts_whole_frames (signed.take 25)
  obtain ⟨hunknown, -⟩ := ofBytes_accepts_whole_frames [0x55]
  obtain ⟨frame, hframe⟩ := hwhole.mpr ⟨.v2, rfl, by decide, by decide⟩
  exact ⟨⟨frame, hframe, hkeeps frame hframe⟩, rfl,
    hshort.mpr (.inr ⟨.v2, rfl, .inr (by decide)⟩), (hunknown 0x55).mpr ⟨rfl, by decide, by decide⟩⟩

end Frame

end VehicleLink
