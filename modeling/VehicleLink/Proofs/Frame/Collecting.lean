import Mathlib.Data.List.GetD
import VehicleLink.Frame.Receiver
import VehicleLink.Proofs.Frame.Layout

/-!
# Proofs/Frame/Collecting — what a receiver knows in the middle of a frame

`Collecting` is the invariant of a reception that has seen a marker.  Its core is one equation: the
bytes received and the bytes still owed (`Reception.owed`) add up to the total length that the bytes
received announce.  A byte that finds room either keeps the invariant or, being the last byte owed,
completes the frame (`Collecting.step_of_room`); a byte that finds none gives the frame up
(`Collecting.step_of_full`).
-/

namespace VehicleLink

/-- How many bytes of a frame announce its total length. -/
def Version.announcedAt : Version → Nat
  | v1 => 2
  | v2 => 3

theorem Version.two_le_announcedAt (version : Version) : 2 ≤ version.announcedAt := by
  cases version <;> decide

theorem Version.announcedAt_le_headerLength (version : Version) :
    version.announcedAt ≤ version.headerLength := by
  cases version <;> decide

namespace Frame

/-- Bytes that are too few to announce a signature announce none. -/
theorem endsSigned_of_length_le_two (version : Version) {bytes : List UInt8}
    (h : bytes.length ≤ 2) : endsSigned version bytes = false := by
  cases version with
  | v1 => rfl
  | v2 =>
    rw [endsSigned, List.getD_eq_default _ _ h]
    rfl

theorem announcedAt_le_length_append {version : Version} {bytes : List UInt8}
    (h : version.announcedAt ≤ bytes.length) (rest : List UInt8) :
    version.announcedAt ≤ (bytes ++ rest).length := by
  rw [List.length_append]
  exact Nat.le_add_right_of_le h

theorem endsSigned_append {version : Version} {bytes : List UInt8}
    (h : version.announcedAt ≤ bytes.length) (rest : List UInt8) :
    endsSigned version (bytes ++ rest) = endsSigned version bytes := by
  cases version with
  | v1 => rfl
  | v2 => rw [endsSigned, endsSigned, List.getD_append _ _ _ _ h]

theorem payloadEnd_append {version : Version} {bytes : List UInt8} (h : 2 ≤ bytes.length)
    (rest : List UInt8) : payloadEnd version (bytes ++ rest) = payloadEnd version bytes := by
  rw [payloadEnd, payloadEnd, List.getD_append _ _ _ _ h]

/-- The bytes that announce the total length settle it. -/
theorem totalLength_append {version : Version} {bytes : List UInt8}
    (h : version.announcedAt ≤ bytes.length) (rest : List UInt8) :
    totalLength version (bytes ++ rest) = totalLength version bytes := by
  rw [totalLength, totalLength, payloadEnd_append (Nat.le_trans version.two_le_announcedAt h),
    endsSigned_append h]

/-- The room that a signature takes, as far as the bytes tell. -/
def signatureRoom (version : Version) (bytes : List UInt8) : Nat :=
  if endsSigned version bytes then signatureLength else 0

/-- Bytes that a phase and the phases after it owe, given what the payload and the signature take.
The phases before the payload length is known count none of the payload. -/
def Phase.owed (version : Version) (payload signature : Nat) : Phase → Nat
  | .marker => 0
  | .length => version.headerLength - 1 + checksumLength
  | .incompat => version.headerLength - 2 + payload + checksumLength
  | .compat => version.headerLength - 3 + payload + checksumLength + signature
  | .header remaining => remaining + payload + checksumLength + signature
  | .payload remaining => remaining + checksumLength + signature
  | .checksum remaining => remaining + signature
  | .signature remaining => remaining

namespace Reception

theorem isSigned_eq (r : Reception) : r.isSigned = endsSigned r.version r.received := by
  rw [isSigned, isSet_ofNat_zero]
  cases r.version <;> rfl

/-- Bytes that the phase and the phases after it still owe, as far as the bytes received tell. -/
def owed (r : Reception) : Nat :=
  r.phase.owed r.version r.payloadLength (signatureRoom r.version r.received)

end Reception

/-- Whether a phase can come after these bytes of a frame.  The phases that count have a byte left
to count, and come once the total length is settled. -/
def Phase.Follows (version : Version) (bytes : List UInt8) : Phase → Prop
  | .marker => False
  | .length => bytes.length = 1
  | .incompat => version = .v2 ∧ bytes.length = 2
  | .compat => version = .v2 ∧ bytes.length = 3
  | .header remaining | .payload remaining | .checksum remaining =>
    0 < remaining ∧ version.announcedAt ≤ bytes.length
  | .signature remaining =>
    0 < remaining ∧ version.announcedAt ≤ bytes.length ∧ endsSigned version bytes

/-- **The invariant of a reception in the middle of a frame.** -/
structure Collecting (config : Config) (r : Reception) : Prop where
  /-- The frame starts with a marker that the receiver takes. -/
  accepted : r.version.marker ∈ config.markers
  head : r.received.head? = some r.version.marker
  fits : r.received.length ≤ config.capacity
  follows : r.phase.Follows r.version r.received
  payloadLength : r.phase ≠ .length → r.payloadLength = (r.received.getD 1 0).toNat
  /-- The bytes received and the bytes owed are the whole frame. -/
  total : r.received.length + r.owed = totalLength r.version r.received

namespace Collecting

variable {config : Config} {r : Reception}

theorem follows_of_phase (h : Collecting config r) {phase : Phase} (hphase : r.phase = phase) :
    phase.Follows r.version r.received :=
  hphase ▸ h.follows

theorem phase_ne_marker (h : Collecting config r) : r.phase ≠ .marker :=
  fun hphase => h.follows_of_phase hphase

theorem owed_pos (h : Collecting config r) : 0 < r.owed := by
  have hfollows := h.follows
  rw [Reception.owed]
  cases hphase : r.phase <;> rw [hphase] at hfollows <;>
    simp only [Phase.owed, Phase.Follows, checksumLength] at hfollows ⊢ <;> omega

/-- In the middle of a frame the bytes received are fewer than the frame has, whatever follows. -/
theorem length_lt_totalLength (h : Collecting config r) (rest : List UInt8) :
    r.received.length < totalLength r.version (r.received ++ rest) := by
  have hpos := h.owed_pos
  have htotal := h.total
  by_cases hannounced : r.version.announcedAt ≤ r.received.length
  · rw [totalLength_append hannounced]
    omega
  · -- Fewer than three bytes are fewer than any frame has.
    have hmin := headerLength_le_totalLength r.version (r.received ++ rest)
    cases hversion : r.version <;> rw [hversion] at hannounced hmin <;>
      simp only [Version.announcedAt, Version.headerLength] at hannounced hmin <;> omega

end Collecting

/-! ## One byte -/

namespace Reception

/-- The reception with one more byte, before it goes on to the next phase. -/
def take (r : Reception) (byte : UInt8) : Reception :=
  { r with
    received := r.received ++ [byte]
    payloadLength := if r.phase = .length then byte.toNat else r.payloadLength }

@[simp] theorem phase_take (r : Reception) (byte : UInt8) : (r.take byte).phase = r.phase := rfl

/-- **A byte in the middle of a frame**, with the cases of the outcome apart. -/
theorem step_eq (config : Config) {r : Reception} (h : r.phase ≠ .marker) (byte : UInt8) :
    r.step config byte =
      if r.received.length < config.capacity then
        match (r.take byte).nextPhase? with
        | some phase => ({ r.take byte with phase := phase }, .pending)
        | none => ({ r.take byte with phase := .marker }, .complete)
      else (r.reset, .failed .overrun) := by
  obtain ⟨phase, version, payloadLength, received⟩ := r
  by_cases hroom : received.length < config.capacity
  · simp only [step, append, take, hroom, if_true]
    cases phase with
    | marker => exact absurd rfl h
    | _ => rfl
  · simp only [step, append, hroom, if_false]

end Reception

namespace Collecting

variable {config : Config} {r : Reception}

theorem two_le_length (h : Collecting config r) (hphase : r.phase ≠ .length) :
    2 ≤ r.received.length := by
  have hfollows := h.follows
  have htwo := r.version.two_le_announcedAt
  cases hphase' : r.phase <;> rw [hphase'] at hfollows hphase <;>
    simp only [Phase.Follows, ne_eq, not_true_eq_false] at hfollows hphase <;> omega

theorem payloadLength_take (h : Collecting config r) (byte : UInt8) :
    (r.take byte).payloadLength = ((r.received ++ [byte]).getD 1 0).toNat := by
  by_cases hphase : r.phase = .length
  · have hone := h.follows
    rw [hphase] at hone
    simp only [Reception.take, hphase, if_true]
    rw [List.getD_append_right _ _ _ _ (Nat.le_of_eq hone), hone]
    rfl
  · simp only [Reception.take, hphase, if_false, h.payloadLength hphase]
    rw [List.getD_append _ _ _ _ (h.two_le_length hphase)]

theorem totalLength_take (h : Collecting config r) (byte : UInt8) :
    totalLength r.version (r.received ++ [byte])
      = r.version.headerLength + (r.take byte).payloadLength + checksumLength
        + signatureRoom r.version (r.received ++ [byte]) := by
  rw [totalLength, payloadEnd, h.payloadLength_take byte, signatureRoom]

end Collecting

/-! ## The next phase -/

theorem eq_one_or_add_two {n : Nat} (h : 0 < n) : n = 1 ∨ ∃ m, n = m + 2 := by
  obtain rfl | hmore := Nat.eq_or_lt_of_le h
  · exact .inl rfl
  · exact .inr (Nat.exists_eq_add_of_le' hmore)

/-- What a byte leads to: a phase that follows the bytes so far and owes the rest of the frame, or,
after the last byte, nothing. -/
def Reception.Continues (r : Reception) (byte : UInt8) : (phase? : Option Phase) → Prop
  | some phase =>
    phase.Follows r.version (r.received ++ [byte]) ∧
      r.received.length + 1 + ({ r.take byte with phase := phase } : Reception).owed
        = totalLength r.version (r.received ++ [byte])
  | none => r.received.length + 1 = totalLength r.version (r.received ++ [byte])

namespace Collecting

variable {config : Config} {r : Reception}

theorem next_length (h : Collecting config r) (hphase : r.phase = .length) (byte : UInt8) :
    r.Continues byte (r.take byte).nextPhase? := by
  have htotal := h.totalLength_take byte
  have hone : r.received.length = 1 := h.follows_of_phase hphase
  have htwo : (r.received ++ [byte]).length = 2 := by
    rw [List.length_append, hone]
    rfl
  have hroom : signatureRoom r.version (r.received ++ [byte]) = 0 := by
    rw [signatureRoom, endsSigned_of_length_le_two r.version (Nat.le_of_eq htwo)]
    rfl
  obtain ⟨phase, version, payloadLength, received⟩ := r
  obtain rfl : phase = .length := hphase
  cases version with
  | v1 =>
    refine ⟨⟨by decide, Nat.le_of_eq htwo.symm⟩, ?_⟩
    simp only [Reception.owed, Phase.owed, Reception.take, hroom, hone] at htotal ⊢
    simp only [htotal, Version.headerLength]
    omega
  | v2 =>
    refine ⟨⟨rfl, htwo⟩, ?_⟩
    simp only [Reception.owed, Phase.owed, Reception.take, hroom, hone] at htotal ⊢
    simp only [htotal, Version.headerLength]
    omega

theorem next_incompat (h : Collecting config r) (hphase : r.phase = .incompat) (byte : UInt8) :
    r.Continues byte (r.take byte).nextPhase? := by
  have htotal := h.totalLength_take byte
  obtain ⟨hversion, htwo⟩ : r.version = .v2 ∧ r.received.length = 2 := h.follows_of_phase hphase
  have hthree : (r.received ++ [byte]).length = 3 := by
    rw [List.length_append, htwo]
    rfl
  obtain ⟨phase, version, payloadLength, received⟩ := r
  obtain rfl : phase = .incompat := hphase
  obtain rfl : version = .v2 := hversion
  refine ⟨⟨rfl, hthree⟩, ?_⟩
  simp only [Reception.owed, Phase.owed, Reception.take, htwo] at htotal ⊢
  simp only [htotal, Version.headerLength]
  omega

/-! Once the total length is announced, each byte leaves one byte less to be owed. -/

section Announced

variable (h : Collecting config r) (hannounced : r.version.announcedAt ≤ r.received.length)
  {byte : UInt8}

include h hannounced

theorem phase_ne_length : r.phase ≠ .length := by
  intro hphase
  have htwo := r.version.two_le_announcedAt
  have hone : r.received.length = 1 := h.follows_of_phase hphase
  omega

theorem continues_some {phase : Phase}
    (hfollows : phase.Follows r.version (r.received ++ [byte]))
    (howed : r.owed
      = phase.owed r.version r.payloadLength (signatureRoom r.version r.received) + 1) :
    r.Continues byte (some phase) := by
  have htotal := h.total
  have htake : ({ r.take byte with phase := phase } : Reception).owed
      = phase.owed r.version r.payloadLength (signatureRoom r.version r.received) := by
    simp only [Reception.owed, Reception.take, if_neg (h.phase_ne_length hannounced), signatureRoom,
      endsSigned_append hannounced]
  refine ⟨hfollows, ?_⟩
  rw [htake, totalLength_append hannounced]
  omega

theorem continues_none (howed : r.owed = 1) : r.Continues byte none := by
  have htotal := h.total
  change _ = totalLength r.version (r.received ++ [byte])
  rw [totalLength_append hannounced, ← htotal, howed]

end Announced

theorem next_compat (h : Collecting config r) (hphase : r.phase = .compat) (byte : UInt8) :
    r.Continues byte (r.take byte).nextPhase? := by
  obtain ⟨hversion, hthree⟩ : r.version = .v2 ∧ r.received.length = 3 := h.follows_of_phase hphase
  have hannounced : r.version.announcedAt ≤ r.received.length := by
    rw [hversion, hthree]
    exact Nat.le_refl 3
  have hnext : (r.take byte).nextPhase? = some (.header (Version.v2.headerLength - 4)) := by
    simp only [Reception.nextPhase?, Reception.phase_take, hphase]
  rw [hnext]
  refine h.continues_some hannounced ⟨by decide, announcedAt_le_length_append hannounced _⟩ ?_
  rw [Reception.owed, hphase, hversion]
  simp only [Phase.owed, Version.headerLength]
  omega

theorem next_header (h : Collecting config r) {remaining : Nat}
    (hphase : r.phase = .header remaining) (byte : UInt8) :
    r.Continues byte (r.take byte).nextPhase? := by
  obtain ⟨hpos, hannounced⟩ : 0 < remaining ∧ r.version.announcedAt ≤ r.received.length :=
    h.follows_of_phase hphase
  have hannounced' := announcedAt_le_length_append hannounced [byte]
  have howed : r.owed = remaining + r.payloadLength + checksumLength
      + signatureRoom r.version r.received := by
    rw [Reception.owed, hphase, Phase.owed]
  obtain rfl | ⟨n, rfl⟩ := eq_one_or_add_two hpos
  · have hpayload : (r.take byte).payloadLength = r.payloadLength :=
      if_neg (h.phase_ne_length hannounced)
    by_cases hempty : r.payloadLength = 0
    · have hnext : (r.take byte).nextPhase? = some (.checksum checksumLength) := by
        simp only [Reception.nextPhase?, Reception.phase_take, hphase, hpayload, if_pos hempty]
      rw [hnext]
      refine h.continues_some hannounced ⟨by decide, hannounced'⟩ ?_
      rw [howed, hempty, Phase.owed]
      omega
    · have hnext : (r.take byte).nextPhase? = some (.payload r.payloadLength) := by
        simp only [Reception.nextPhase?, Reception.phase_take, hphase, hpayload, if_neg hempty]
      rw [hnext]
      refine h.continues_some hannounced ⟨Nat.pos_of_ne_zero hempty, hannounced'⟩ ?_
      rw [howed, Phase.owed]
      omega
  · have hnext : (r.take byte).nextPhase? = some (.header (n + 1)) := by
      simp only [Reception.nextPhase?, Reception.phase_take, hphase, Nat.add_one_sub_one]
    rw [hnext]
    refine h.continues_some hannounced ⟨Nat.succ_pos n, hannounced'⟩ ?_
    rw [howed, Phase.owed]
    omega

theorem next_payload (h : Collecting config r) {remaining : Nat}
    (hphase : r.phase = .payload remaining) (byte : UInt8) :
    r.Continues byte (r.take byte).nextPhase? := by
  obtain ⟨hpos, hannounced⟩ : 0 < remaining ∧ r.version.announcedAt ≤ r.received.length :=
    h.follows_of_phase hphase
  have hannounced' := announcedAt_le_length_append hannounced [byte]
  have howed : r.owed = remaining + checksumLength + signatureRoom r.version r.received := by
    rw [Reception.owed, hphase, Phase.owed]
  obtain rfl | ⟨n, rfl⟩ := eq_one_or_add_two hpos
  · have hnext : (r.take byte).nextPhase? = some (.checksum checksumLength) := by
      simp only [Reception.nextPhase?, Reception.phase_take, hphase]
    rw [hnext]
    refine h.continues_some hannounced ⟨by decide, hannounced'⟩ ?_
    rw [howed, Phase.owed]
    omega
  · have hnext : (r.take byte).nextPhase? = some (.payload (n + 1)) := by
      simp only [Reception.nextPhase?, Reception.phase_take, hphase, Nat.add_one_sub_one]
    rw [hnext]
    refine h.continues_some hannounced ⟨Nat.succ_pos n, hannounced'⟩ ?_
    rw [howed, Phase.owed]
    omega

theorem next_checksum (h : Collecting config r) {remaining : Nat}
    (hphase : r.phase = .checksum remaining) (byte : UInt8) :
    r.Continues byte (r.take byte).nextPhase? := by
  obtain ⟨hpos, hannounced⟩ : 0 < remaining ∧ r.version.announcedAt ≤ r.received.length :=
    h.follows_of_phase hphase
  have hannounced' := announcedAt_le_length_append hannounced [byte]
  have howed : r.owed = remaining + signatureRoom r.version r.received := by
    rw [Reception.owed, hphase, Phase.owed]
  obtain rfl | ⟨n, rfl⟩ := eq_one_or_add_two hpos
  · have hsame : (r.take byte).isSigned = endsSigned r.version r.received :=
      (r.take byte).isSigned_eq.trans (endsSigned_append hannounced [byte])
    by_cases hsigned : endsSigned r.version r.received
    · have hnext : (r.take byte).nextPhase? = some (.signature signatureLength) := by
        simp only [Reception.nextPhase?, Reception.phase_take, hphase, hsame, if_pos hsigned]
      have hsigned' : endsSigned r.version (r.received ++ [byte]) :=
        (endsSigned_append hannounced [byte]).trans hsigned
      rw [hnext]
      refine h.continues_some hannounced ⟨by decide, hannounced', hsigned'⟩ ?_
      rw [howed, signatureRoom, if_pos hsigned, Phase.owed]
      omega
    · have hnext : (r.take byte).nextPhase? = none := by
        simp only [Reception.nextPhase?, Reception.phase_take, hphase, hsame, if_neg hsigned]
      rw [hnext]
      refine h.continues_none hannounced ?_
      rw [howed, signatureRoom, if_neg hsigned]
  · have hnext : (r.take byte).nextPhase? = some (.checksum (n + 1)) := by
      simp only [Reception.nextPhase?, Reception.phase_take, hphase, Nat.add_one_sub_one]
    rw [hnext]
    refine h.continues_some hannounced ⟨Nat.succ_pos n, hannounced'⟩ ?_
    rw [howed, Phase.owed]
    omega

theorem next_signature (h : Collecting config r) {remaining : Nat}
    (hphase : r.phase = .signature remaining) (byte : UInt8) :
    r.Continues byte (r.take byte).nextPhase? := by
  obtain ⟨hpos, hannounced, hsigned⟩ : 0 < remaining ∧
      r.version.announcedAt ≤ r.received.length ∧ endsSigned r.version r.received :=
    h.follows_of_phase hphase
  have howed : r.owed = remaining := by
    rw [Reception.owed, hphase, Phase.owed]
  obtain rfl | ⟨n, rfl⟩ := eq_one_or_add_two hpos
  · have hnext : (r.take byte).nextPhase? = none := by
      simp only [Reception.nextPhase?, Reception.phase_take, hphase]
    rw [hnext]
    exact h.continues_none hannounced howed
  · have hnext : (r.take byte).nextPhase? = some (.signature (n + 1)) := by
      simp only [Reception.nextPhase?, Reception.phase_take, hphase, Nat.add_one_sub_one]
    have hsigned' : endsSigned r.version (r.received ++ [byte]) :=
      (endsSigned_append hannounced [byte]).trans hsigned
    rw [hnext]
    exact h.continues_some hannounced
      ⟨Nat.succ_pos n, announcedAt_le_length_append hannounced _, hsigned'⟩ howed

/-- **The next phase follows the bytes so far and owes the rest of the frame**; there is none
exactly after the last byte. -/
theorem next (h : Collecting config r) (byte : UInt8) :
    r.Continues byte (r.take byte).nextPhase? := by
  cases hphase : r.phase with
  | marker => exact absurd hphase h.phase_ne_marker
  | length => exact h.next_length hphase byte
  | incompat => exact h.next_incompat hphase byte
  | compat => exact h.next_compat hphase byte
  | header remaining => exact h.next_header hphase byte
  | payload remaining => exact h.next_payload hphase byte
  | checksum remaining => exact h.next_checksum hphase byte
  | signature remaining => exact h.next_signature hphase byte

/-! ## One byte -/

/-- **A byte that finds room keeps the invariant or completes the frame.** -/
theorem step_of_room (h : Collecting config r) (hroom : r.received.length < config.capacity)
    (byte : UInt8) :
    (∃ next, r.step config byte = (next, .pending) ∧ next.version = r.version ∧
        next.received = r.received ++ [byte] ∧ Collecting config next) ∨
      (∃ last, r.step config byte = (last, .complete) ∧ last.phase = .marker ∧
        last.received = r.received ++ [byte] ∧
        r.received.length + 1 = totalLength r.version (r.received ++ [byte])) := by
  have hnext := h.next byte
  rw [Reception.step_eq config h.phase_ne_marker, if_pos hroom]
  cases hphase : (r.take byte).nextPhase? with
  | none =>
    rw [hphase] at hnext
    exact .inr ⟨_, rfl, rfl, rfl, hnext⟩
  | some phase =>
    rw [hphase] at hnext
    refine .inl ⟨_, rfl, rfl, rfl, ?_⟩
    exact
      { accepted := h.accepted
        head := by
          change (r.received ++ [byte]).head? = _
          rw [List.head?_append, h.head]
          rfl
        fits := by
          change (r.received ++ [byte]).length ≤ _
          rw [List.length_append]
          exact hroom
        follows := hnext.1
        payloadLength := fun _ => h.payloadLength_take byte
        total := by
          change (r.received ++ [byte]).length + _ = totalLength r.version (r.received ++ [byte])
          rw [List.length_append]
          exact hnext.2 }

/-- A byte that finds no room gives the frame up. -/
theorem step_of_full (h : Collecting config r) (hfull : config.capacity ≤ r.received.length)
    (byte : UInt8) : r.step config byte = (r.reset, .failed .overrun) := by
  rw [Reception.step_eq config h.phase_ne_marker, if_neg (Nat.not_lt.mpr hfull)]

end Collecting

/-- Between frames, a byte that is no marker changes nothing. -/
theorem Reception.step_of_skip {config : Config} {r : Reception} (hidle : r.phase = .marker)
    {byte : UInt8} (hversion : versionOf? config byte = none) :
    r.step config byte = (r, .pending) := by
  simp only [step, hidle, hversion]

/-- A marker that finds no room is given up at once. -/
theorem Reception.step_of_no_room {config : Config} {r : Reception} (hidle : r.phase = .marker)
    {byte : UInt8} {version : Version} (hversion : versionOf? config byte = some version)
    (hfull : config.capacity = 0) :
    ∃ next, r.step config byte = (next, .failed .overrun) ∧ next.phase = .marker := by
  simp only [step, hidle, hversion, append, hfull, Nat.not_lt_zero, if_false]
  exact ⟨_, rfl, rfl⟩

/-- **A marker that finds room starts a frame.** -/
theorem Reception.step_of_marker {config : Config} {r : Reception} (hidle : r.phase = .marker)
    {byte : UInt8} {version : Version} (hversion : versionOf? config byte = some version)
    (hroom : 0 < config.capacity) :
    ∃ next, r.step config byte = (next, .pending) ∧ next.version = version ∧
      next.received = [byte] ∧ Collecting config next := by
  have hmem : byte ∈ config.markers ∧ byte = version.marker := by
    rw [versionOf?] at hversion
    split at hversion
    · next h =>
      exact ⟨List.contains_iff_mem.mp h, Version.ofMarker?_eq_some_iff.mp hversion⟩
    · cases hversion
  refine ⟨{ r with phase := .length, version := version, received := [byte] }, ?_, rfl, rfl, ?_⟩
  · simp [step, hidle, hversion, append, hroom]
  · obtain ⟨haccepted, rfl⟩ := hmem
    have hunsigned : endsSigned version [version.marker] = false :=
      endsSigned_of_length_le_two version (Nat.le_succ 1)
    exact
      { accepted := haccepted
        head := rfl
        fits := hroom
        follows := rfl
        payloadLength := fun h => absurd rfl h
        total := by
          have hpos : 0 < version.headerLength := by cases version <;> decide
          simp only [owed, Phase.owed, totalLength, payloadEnd, hunsigned, List.length_singleton,
            List.getD_cons_succ, List.getD_nil]
          change _ = version.headerLength + 0 + checksumLength + 0
          omega }

end Frame

end VehicleLink
