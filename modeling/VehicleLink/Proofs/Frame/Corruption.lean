import VehicleLink.Frame.Basic
import VehicleLink.Proofs.Frame.Layout
import VehicleLink.Proofs.Message.Crc

/-!
# Proofs/Frame/Corruption — damage that the checksum of a frame reports

A frame whose checksum is right no longer has a right one once an odd number of its bits is turned,
or once its checksum stands and the bytes before it change within two neighbours
(`corruption_reported`).  The checksum also settles the byte that stands for the message definition:
no other byte passes.

Odd damage is found by the parity of the checksum (`distance_even`), damage in two neighbours by its
injectivity on windows (`covered_eq_of_window`).
-/

namespace VehicleLink.Frame

/-- In how many bits two frames differ, counting what the checksum covers and the checksum. -/
def distance (a b : Frame) : Nat :=
  bitDistance a.covered b.covered + weight 16 (a.checksum ^^^ b.checksum).toNat

/-- Whether two byte lists agree everywhere but in the two bytes from `place` on. -/
def AgreeOutside (place : Nat) (a b : List UInt8) : Prop :=
  ∀ i, i ≠ place → i ≠ place + 1 → a[i]? = b[i]?

/-- Whether the frame is refused for its checksum when `extra` stands for the definition. -/
def Mismatches (frame : Frame) (extra : UInt8) : Prop :=
  frame.verifyChecksum extra
    = .error (.checksumMismatch (frameChecksum frame.covered extra) frame.checksum)

section Verify

variable {frame : Frame} {extra : UInt8}

theorem verifyChecksum_eq_ok_iff :
    frame.verifyChecksum extra = .ok () ↔ frameChecksum frame.covered extra = frame.checksum := by
  rw [verifyChecksum]
  split
  · next h => exact iff_of_true rfl h
  · next h => exact iff_of_false nofun h

theorem mismatches_of_ne (h : frameChecksum frame.covered extra ≠ frame.checksum) :
    frame.Mismatches extra := if_neg h

end Verify

/-! ## An odd number of bits -/

theorem weight_frameChecksum (covered : List UInt8) (extra : UInt8) :
    weight 16 (frameChecksum covered extra).toNat % 2
      = (totalWeight covered + weight 8 extra.toNat) % 2 := by
  have hstart : weight 16 Crc.start.toNat = 16 := by decide
  rw [frameChecksum, Crc.weight_bitwise, hstart, totalWeight_append, totalWeight_cons]
  change (16 + (totalWeight covered + (weight 8 extra.toNat + 0))) % 2 = _
  omega

variable {a b : Frame} {extra : UInt8}

/-- **Two frames that both pass differ in an even number of bits.** -/
theorem distance_even (hlength : a.covered.length = b.covered.length)
    (ha : frameChecksum a.covered extra = a.checksum)
    (hb : frameChecksum b.covered extra = b.checksum) : a.distance b % 2 = 0 := by
  have hcovered := bitDistance_mod_two hlength
  have hchecksum := weight_xor_mod_two 16 a.checksum.toNat b.checksum.toNat
  have hwa := weight_frameChecksum a.covered extra
  have hwb := weight_frameChecksum b.covered extra
  rw [ha] at hwa
  rw [hb] at hwb
  rw [distance, UInt16.toNat_xor]
  omega

/-! ## Two neighbouring bytes -/

/-- Lists that agree outside two places are the same around a window. -/
theorem agreeOutside_iff {place : Nat} {a b : List UInt8} :
    AgreeOutside place a b
      ↔ a.take place = b.take place ∧ a.drop (place + 2) = b.drop (place + 2) := by
  constructor
  · intro h
    constructor <;> apply List.ext_getElem? <;> intro i
    · rw [List.getElem?_take, List.getElem?_take]
      split
      · next hlt => exact h i (Nat.ne_of_lt hlt) (Nat.ne_of_lt (Nat.lt_succ_of_lt hlt))
      · rfl
    · rw [List.getElem?_drop, List.getElem?_drop]
      exact h (place + 2 + i) (by omega) (by omega)
  · rintro ⟨hfront, hback⟩ i hfirst hsecond
    rcases Nat.lt_or_ge i place with hlt | hge
    · rw [← List.getElem?_take_of_lt hlt, hfront, List.getElem?_take_of_lt hlt]
    · obtain ⟨j, rfl⟩ := Nat.exists_eq_add_of_le (show place + 2 ≤ i by omega)
      rw [← List.getElem?_drop, hback, List.getElem?_drop]

instance (place : Nat) (a b : List UInt8) : Decidable (AgreeOutside place a b) :=
  decidable_of_iff _ agreeOutside_iff.symm

theorem take_append_window (place : Nat) (bytes : List UInt8) :
    bytes.take place ++ (bytes.drop place).take 2 ++ bytes.drop (place + 2) = bytes := by
  rw [List.append_assoc, ← List.drop_drop, List.take_append_drop, List.take_append_drop]

/-- **Two frames with one checksum that both pass do not differ within two neighbouring bytes.** -/
theorem covered_eq_of_window (hlength : a.covered.length = b.covered.length)
    (ha : frameChecksum a.covered extra = a.checksum)
    (hb : frameChecksum b.covered extra = b.checksum) (hchecksum : a.checksum = b.checksum)
    {place : Nat} (houtside : AgreeOutside place a.covered b.covered) : a.covered = b.covered := by
  obtain ⟨hfront, hback⟩ := agreeOutside_iff.mp houtside
  have hcrc : frameChecksum a.covered extra = frameChecksum b.covered extra := by
    rw [ha, hb, hchecksum]
  rw [frameChecksum, frameChecksum, ← take_append_window place a.covered,
    ← take_append_window place b.covered, hfront, hback, List.append_assoc,
    List.append_assoc _ _ [extra]] at hcrc
  have hwindow := Crc.bitwise_window _ _ (by simp [hlength]) (List.length_take_le ..) hcrc
  rw [← take_append_window place a.covered, hfront, hback, hwindow, take_append_window]

/-! ## The message definition -/

/-- **At most one byte for the definition passes.** -/
theorem extra_unique {covered : List UInt8} {extra other : UInt8}
    (h : frameChecksum covered extra = frameChecksum covered other) : extra = other := by
  rw [frameChecksum, frameChecksum, ← List.append_nil (covered ++ [extra]),
    ← List.append_nil (covered ++ [other])] at h
  exact List.singleton_inj.mp (Crc.bitwise_window covered [] rfl (Nat.le_succ 1) h)

/-! ## What is reported -/

/-- **Damage to a frame that passes is reported**: an odd number of turned bits anywhere, or changes
within two neighbouring bytes under an untouched checksum.  No other byte for the message definition
passes either. -/
theorem corruption_reported {a : Frame} {extra : UInt8} (hpass : a.verifyChecksum extra = .ok ()) :
    (∀ b : Frame, a.covered.length = b.covered.length →
      (a.distance b % 2 = 1 ∨
        a.checksum = b.checksum ∧ a.covered ≠ b.covered ∧
          ∃ place, AgreeOutside place a.covered b.covered) →
      b.Mismatches extra) ∧
    ∀ other, other ≠ extra → a.Mismatches other := by
  have ha := verifyChecksum_eq_ok_iff.mp hpass
  refine ⟨fun b hlength hdamage => mismatches_of_ne fun hb => ?_,
    fun other hother => mismatches_of_ne fun h => hother (extra_unique (h.trans ha.symm))⟩
  rcases hdamage with hodd | ⟨hchecksum, hne, place, houtside⟩
  · have heven := distance_even hlength ha hb
    omega
  · exact hne (covered_eq_of_window hlength ha hb hchecksum houtside)

/-- A heartbeat from the first component of the first system. -/
def heartbeatBytes : List UInt8 :=
  [0xFD, 6, 0, 0, 0, 1, 1, 0, 0, 0, 0, 0, 0, 0, 2, 3, 0x80, 0x31]

/-- A heartbeat with a bit turned in its payload, and one with its last two payload bytes swapped,
which turns two bits. -/
theorem corruption_reported_heartbeat :
    (cut .v2 heartbeatBytes).verifyChecksum 50 = .ok () ∧
      (cut .v2 heartbeatBytes).distance (cut .v2 (heartbeatBytes.set 12 8)) % 2 = 1 ∧
      (cut .v2 (heartbeatBytes.set 12 8)).Mismatches 50 ∧
      AgreeOutside 13 (cut .v2 heartbeatBytes).covered
        (cut .v2 ((heartbeatBytes.set 14 3).set 15 2)).covered ∧
      (cut .v2 ((heartbeatBytes.set 14 3).set 15 2)).Mismatches 50 ∧
      (cut .v2 heartbeatBytes).Mismatches 51 := by
  have hpass : (cut .v2 heartbeatBytes).verifyChecksum 50 = .ok () :=
    verifyChecksum_eq_ok_iff.mpr (by decide +kernel)
  have hodd : (cut .v2 heartbeatBytes).distance (cut .v2 (heartbeatBytes.set 12 8)) % 2 = 1 := by
    decide +kernel
  have houtside : AgreeOutside 13 (cut .v2 heartbeatBytes).covered
      (cut .v2 ((heartbeatBytes.set 14 3).set 15 2)).covered := by decide +kernel
  have hne : (cut .v2 heartbeatBytes).covered
      ≠ (cut .v2 ((heartbeatBytes.set 14 3).set 15 2)).covered := by decide +kernel
  obtain ⟨hdamage, hextra⟩ := corruption_reported hpass
  exact ⟨hpass, hodd, hdamage _ rfl (.inl hodd), houtside,
    hdamage _ rfl (.inr ⟨by decide +kernel, hne, 13, houtside⟩), hextra 51 (by decide)⟩

end VehicleLink.Frame
