import VehicleLink.Frame.Basic

/-!
# Proofs/Frame/Layout — where the parts of a frame lie

A frame tells its own length early: the second byte is the length of the payload, and in version two
the third byte says whether a signature follows (`totalLength`).  Every part then has a fixed place
(`cut`).  `ofBytes_eq_cut`: on bytes that are long enough, reading part after part finds each at its
place.
-/

namespace VehicleLink

theorem Version.ofMarker?_eq_none_iff {byte : UInt8} :
    ofMarker? byte = none ↔ byte ≠ 0xFD ∧ byte ≠ 0xFE := by
  rw [Option.eq_none_iff_forall_ne_some]
  refine ⟨fun h => ⟨?_, ?_⟩, fun ⟨hv2, hv1⟩ version h => ?_⟩
  · rintro rfl
    exact h .v2 rfl
  · rintro rfl
    exact h .v1 rfl
  · rw [ofMarker?_eq_some_iff] at h
    cases version
    · exact hv1 h
    · exact hv2 h

namespace Frame

/-! ## Places -/

/-- Whether a signature ends the frame: bit 0 of the third byte, in version two. -/
def endsSigned : (version : Version) → (bytes : List UInt8) → Bool
  | .v1, _ => false
  | .v2, bytes => (bytes.getD 2 0).toNat % 2 = 1

/-- Where the payload ends. -/
def payloadEnd (version : Version) (bytes : List UInt8) : Nat :=
  version.headerLength + (bytes.getD 1 0).toNat

/-- Bytes of the whole frame that starts `bytes`. -/
def totalLength (version : Version) (bytes : List UInt8) : Nat :=
  payloadEnd version bytes + checksumLength
    + if endsSigned version bytes then signatureLength else 0

/-- The header at the start of `bytes`, its marker included. -/
def cutHeader : (version : Version) → (bytes : List UInt8) → Header
  | .v1, bytes =>
    { payloadLength := bytes.getD 1 0, incompat := .ofNat 0, compat := 0,
      sequence := bytes.getD 2 0, systemId := bytes.getD 3 0, componentId := bytes.getD 4 0,
      messageId := (bytes.getD 5 0).toNat }
  | .v2, bytes =>
    { payloadLength := bytes.getD 1 0, incompat := .ofNat (bytes.getD 2 0).toNat,
      compat := bytes.getD 3 0, sequence := bytes.getD 4 0, systemId := bytes.getD 5 0,
      componentId := bytes.getD 6 0,
      messageId := (bytes.getD 7 0).toNat + 256 * (bytes.getD 8 0).toNat
        + 65536 * (bytes.getD 9 0).toNat }

/-- The frame that starts `bytes`, with every part cut out at its place. -/
def cut (version : Version) (bytes : List UInt8) : Frame where
  version := version
  header := cutHeader version bytes
  payload := (bytes.take (payloadEnd version bytes)).drop version.headerLength
  checksum :=
    UInt16.ofNat (ofLittleEndian ((bytes.drop (payloadEnd version bytes)).take checksumLength))
  signature :=
    if endsSigned version bytes then
      some ((bytes.drop (payloadEnd version bytes + checksumLength)).take signatureLength)
    else none
  covered := (bytes.take (payloadEnd version bytes)).drop 1

theorem headerLength_le_totalLength (version : Version) (bytes : List UInt8) :
    version.headerLength + checksumLength ≤ totalLength version bytes := by
  rw [totalLength, payloadEnd]
  omega

theorem totalLength_le_maxLength (version : Version) (bytes : List UInt8) :
    totalLength version bytes ≤ 280 := by
  have hheader : version.headerLength ≤ 10 := by cases version <;> decide
  have hpayload := (bytes.getD 1 0).toNat_lt
  rw [totalLength, payloadEnd, checksumLength, signatureLength]
  split <;> omega

/-! ## Reading finds the parts -/

theorem isSet_ofNat_zero (mask : Nat) :
    (Flags.ofNat mask : Flags .incompat).isSet 0 = decide (mask % 2 = 1) := by
  have hwidth : 0 < FlagFamily.incompat.names.length := by decide
  rw [Flags.isSet, Flags.ofNat, BitVec.getLsbD_ofNat, Nat.testBit_zero]
  simp [hwidth]

theorem isSigned_cutHeader (version : Version) (bytes : List UInt8) :
    (cutHeader version bytes).isSigned = endsSigned version bytes := by
  cases version
  · exact isSet_ofNat_zero 0
  · exact isSet_ofNat_zero (bytes.getD 2 0).toNat

theorem payloadLength_cutHeader (version : Version) (bytes : List UInt8) :
    (cutHeader version bytes).payloadLength = bytes.getD 1 0 := by
  cases version <;> rfl

/-- The header announces all that follows it. -/
theorem headerLength_add_announced (version : Version) (bytes : List UInt8) :
    version.headerLength + ((cutHeader version bytes).payloadLength.toNat + checksumLength
        + if (cutHeader version bytes).isSigned then signatureLength else 0)
      = totalLength version bytes := by
  rw [isSigned_cutHeader, payloadLength_cutHeader, totalLength, payloadEnd, Nat.add_assoc,
    Nat.add_assoc, Nat.add_assoc]

theorem ofLittleEndian_three (a b c : UInt8) :
    ofLittleEndian [a, b, c] = a.toNat + 256 * b.toNat + 65536 * c.toNat := by
  simp only [ofLittleEndian]
  omega

/-- **Reading the header finds it at its place.** -/
theorem read?_eq_cutHeader (version : Version) {marker : UInt8} {bytes : List UInt8}
    (h : version.headerLength ≤ (marker :: bytes).length) :
    Header.read? version bytes
      = some (cutHeader version (marker :: bytes),
          (marker :: bytes).drop version.headerLength) := by
  cases version with
  | v1 =>
    match bytes, h with
    | _ :: _ :: _ :: _ :: _ :: _, _ => rfl
  | v2 =>
    match bytes, h with
    | _ :: _ :: _ :: _ :: _ :: _ :: id₀ :: id₁ :: id₂ :: _, _ =>
      simp only [Header.read?, ofLittleEndian_three]
      rfl

theorem splitAt?_eq {count : Nat} {bytes : List UInt8} (h : count ≤ bytes.length) :
    splitAt? count bytes = some (bytes.take count, bytes.drop count) :=
  if_pos h

/-- **Reading what follows the header finds the payload, the checksum and the signature.** -/
theorem readBody?_eq (header : Header) {bytes : List UInt8}
    (h : header.payloadLength.toNat + checksumLength
      + (if header.isSigned then signatureLength else 0) ≤ bytes.length) :
    readBody? header bytes
      = some (bytes.take header.payloadLength.toNat,
          UInt16.ofNat
            (ofLittleEndian ((bytes.drop header.payloadLength.toNat).take checksumLength)),
          if header.isSigned then
            some ((bytes.drop (header.payloadLength.toNat + checksumLength)).take signatureLength)
          else none) := by
  have hpayload : header.payloadLength.toNat ≤ bytes.length := by omega
  have hchecksum : checksumLength ≤ (bytes.drop header.payloadLength.toNat).length := by
    rw [List.length_drop]
    omega
  simp only [readBody?, splitAt?_eq hpayload, splitAt?_eq hchecksum, Option.bind_eq_bind,
    Option.bind_some]
  cases hsigned : header.isSigned with
  | false => rfl
  | true =>
    have hsignature : signatureLength
        ≤ (bytes.drop (header.payloadLength.toNat + checksumLength)).length := by
      simp only [hsigned, if_true] at h
      rw [List.length_drop]
      omega
    simp only [if_true, List.drop_drop, splitAt?_eq hsignature]
    rfl

/-- **Bytes that are long enough are cut into their parts**, whatever follows them. -/
theorem ofBytes_eq_cut (version : Version) {bytes : List UInt8}
    (hmarker : bytes.head? = some version.marker)
    (hlength : totalLength version bytes ≤ bytes.length) :
    ofBytes bytes = .ok (cut version bytes) := by
  obtain ⟨bytes, rfl⟩ := List.head?_eq_some_iff.mp hmarker
  have hannounced := headerLength_add_announced version (version.marker :: bytes)
  have hheader : version.headerLength ≤ (version.marker :: bytes).length :=
    Nat.le_trans (Nat.le_of_add_right_le (headerLength_le_totalLength _ _)) hlength
  have hbody : (cutHeader version (version.marker :: bytes)).payloadLength.toNat + checksumLength
      + (if (cutHeader version (version.marker :: bytes)).isSigned then signatureLength else 0)
      ≤ ((version.marker :: bytes).drop version.headerLength).length := by
    rw [List.length_drop]
    omega
  have hcovered : bytes.take (version.headerLength - 1 + ((version.marker :: bytes).getD 1 0).toNat)
      = ((version.marker :: bytes).take (payloadEnd version (version.marker :: bytes))).drop 1 := by
    have hpos : 1 ≤ version.headerLength := by cases version <;> decide
    have hend : payloadEnd version (version.marker :: bytes)
        = version.headerLength - 1 + ((version.marker :: bytes).getD 1 0).toNat + 1 := by
      rw [payloadEnd]
      omega
    rw [hend, List.take_succ_cons, List.drop_succ_cons, List.drop_zero]
  rw [ofBytes, Version.ofMarker?_eq_some_iff.mpr rfl]
  simp only [read?_eq_cutHeader version hheader, readBody?_eq _ hbody, isSigned_cutHeader,
    payloadLength_cutHeader, hcovered]
  simp only [cut, payloadEnd, List.drop_take, List.drop_drop, Nat.add_sub_cancel_left,
    Nat.add_assoc]

end Frame

end VehicleLink
