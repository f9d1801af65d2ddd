import VehicleLink.Proofs.Frame.Acceptance
import VehicleLink.Proofs.Frame.Storage
import VehicleLink.Proofs.Receiver.Recording

/-!
# Proofs/Frame/Representation — what the storage of a receiver stands for at any time

In the middle of a frame the cells in use hold the last bytes received, from a marker on, and the
bytes still owed make up the total length that they announce (`Stored.HoldsPart`).  This is so after
any pushes and resets, overruns included (`storage_holds_frame_part`), and when the last byte owed has
come, the cells in use are a whole frame (`Stored.Recorded.exists_frame`).

A state does not keep the bytes that came before its frame, so the invariant is one of the receiver
with its history (`Receiver.recording`).
-/

namespace VehicleLink.Frame

/-! ## One byte -/

section OneByte

variable {config : Config} {r : Reception} (h : r.Sound config) (byte : UInt8)

include h

/-- **In the middle of a frame a byte joins those received**, and the first one joins none. -/
theorem Reception.Sound.received_step (hphase : (r.step config byte).1.phase ≠ .marker) :
    (r.step config byte).1.received = (if r.phase = .marker then [] else r.received) ++ [byte] := by
  have heffect := h.effect_step byte
  generalize r.step config byte = result at heffect hphase ⊢
  cases heffect with
  | skips hidle => exact absurd hidle hphase
  | starts hidle hreceived => rwa [if_pos hidle]
  | collects hr hreceived => rwa [if_neg hr.phase_ne_marker]
  | completes _ hidle => exact absurd hidle hphase
  | overruns hidle => exact absurd hidle hphase

theorem Reception.Sound.error_eq {error : LinkError}
    (hfailed : (r.step config byte).2 = .failed error) : error = .overrun := by
  have heffect := h.effect_step byte
  generalize r.step config byte = result at heffect hfailed
  cases heffect with
  | overruns => exact (Outcome.failed.inj hfailed).symm
  | _ => cases hfailed

/-- **The byte that completes a frame makes the bytes received a whole frame**, with nothing behind
it. -/
theorem Reception.Sound.exists_frame (hcomplete : (r.step config byte).2 = .complete) :
    ∃ frame, ofBytes (r.step config byte).1.received = .ok frame ∧
      frame.toBytes = clearReserved frame.version (r.step config byte).1.received ∧
      totalLength frame.version (r.step config byte).1.received
        = (r.step config byte).1.received.length := by
  have heffect := h.effect_step byte
  generalize r.step config byte = result at heffect hcomplete ⊢
  cases heffect with
  | completes hr _ hreceived htotal =>
    have hmarker : (r.received ++ [byte]).head? = some r.version.marker := by
      rw [List.head?_append, hr.head]
      rfl
    have hlength :
        totalLength r.version (r.received ++ [byte]) = (r.received ++ [byte]).length := by
      rw [List.length_append]
      exact htotal.symm
    have hparts := toBytes_cut hmarker (Nat.le_of_eq hlength)
    rw [hlength, List.take_length] at hparts
    rw [hreceived]
    exact ⟨_, ofBytes_eq_cut r.version hmarker (Nat.le_of_eq hlength), hparts, hlength⟩
  | _ => cases hcomplete

end OneByte

/-! ## The storage -/

/-- The bytes that a phase counts down, if it counts any. -/
def Phase.remaining? : Phase → Option Nat
  | .header remaining | .payload remaining | .checksum remaining | .signature remaining =>
    some remaining
  | .marker | .length | .incompat | .compat => none

theorem Collecting.remaining_pos {config : Config} {r : Reception} (h : Collecting config r)
    {remaining : Nat} (hcount : r.phase.remaining? = some remaining) : 1 ≤ remaining := by
  have hfollows := h.follows
  cases hphase : r.phase <;> rw [hphase] at hfollows hcount <;> cases hcount <;>
    exact hfollows.1

namespace Stored

variable {config : Config} {s : Stored config.capacity} {history : List UInt8}

/-- What the storage holds in the middle of a frame, after all the bytes of the history. -/
structure HoldsPart (config : Config) (s : Stored config.capacity) (history : List UInt8) :
    Prop where
  /-- The cells in use hold the last bytes received. -/
  latest : s.store.contents <:+ history
  /-- The first of them is a marker that the receiver takes. -/
  accepted : s.version.marker ∈ config.markers
  marker : s.store.contents.head? = some s.version.marker
  /-- The second is the length of the payload, once it has come. -/
  payloadLength : s.phase ≠ .length →
    ∃ byte, s.store.contents[1]? = some byte ∧ s.payloadLength = byte.toNat
  /-- The bytes received and the bytes owed are the whole frame. -/
  total : s.store.filled + s.reception.owed = totalLength s.version s.store.contents
  /-- The third has come when the signature flag in it is asked for. -/
  flagged : s.phase = .checksum 1 → s.version = .v2 → 2 < s.store.filled

/-- What the storage stands for at any time, after all the bytes of the history. -/
structure Represents (config : Config) (s : Stored config.capacity) (history : List UInt8) :
    Prop where
  filled_le : s.store.filled ≤ config.capacity
  /-- A phase that counts has a byte left to count. -/
  counts : ∀ remaining, s.phase.remaining? = some remaining → 1 ≤ remaining
  part : s.phase ≠ .marker → s.HoldsPart config history
  /-- After the last byte of a frame the cells in use are that frame, and nothing else. -/
  whole : ∀ byte, (s.step config byte).2 = .complete →
    ∃ frame, (storedReceiver config).item (s.step config byte).1 = .ok frame ∧
      frame.toBytes = clearReserved frame.version (s.step config byte).1.store.contents ∧
      totalLength frame.version (s.step config byte).1.store.contents
        = (s.step config byte).1.store.filled
  /-- So no frame that is complete is refused: an error is that of a byte without room. -/
  errors : ∀ byte error, ((storedReceiver config).push s byte).2 = some (.error error) →
    error = .overrun ∧ (s.step config byte).2 = .failed .overrun

/-- The invariant of a state and its history: what its reception knows, and that the bytes of the
frame are the last of the history. -/
structure Recorded (config : Config) (s : Stored config.capacity) (history : List UInt8) :
    Prop where
  sound : s.reception.Sound config
  latest : s.phase ≠ .marker → s.store.contents <:+ history

/-- **A byte keeps the invariant**, and joins the history. -/
theorem Recorded.step (h : s.Recorded config history) (byte : UInt8) :
    (s.step config byte).1.Recorded config (history ++ [byte]) where
  sound := by
    have hnext := h.sound.step byte
    rwa [s.step_reception h.sound] at hnext
  latest := by
    have hreceived := h.sound.received_step byte
    rw [s.step_reception h.sound] at hreceived
    intro hphase
    have hcontents : (s.step config byte).1.store.contents
        = (if s.phase = .marker then [] else s.store.contents) ++ [byte] := hreceived hphase
    rw [hcontents]
    split
    · exact List.suffix_append history [byte]
    · next hbusy =>
      obtain ⟨before, rfl⟩ := h.latest hbusy
      exact ⟨before, (List.append_assoc ..).symm⟩

/-- **Every reachable state has the invariant.** -/
theorem recorded (h : (storedReceiver config).recording.Reachable (s, history)) :
    s.Recorded config history :=
  (storedReceiver config).recording_keeps (fun hstate byte => hstate.step byte)
    ⟨fun hphase => absurd rfl hphase, fun hphase => absurd rfl hphase⟩
    (fun _ => ⟨fun hphase => absurd rfl hphase, fun hphase => absurd rfl hphase⟩) h

theorem Recorded.holdsPart (h : s.Recorded config history) (hphase : s.phase ≠ .marker) :
    s.HoldsPart config history := by
  have hr : Collecting config s.reception := h.sound hphase
  have hlength : s.store.contents.length = s.store.filled := s.store.length_contents
  exact
    { latest := h.latest hphase
      accepted := hr.accepted
      marker := hr.head
      payloadLength := by
        intro hphase'
        have htwo : 1 < s.store.contents.length := hr.two_le_length hphase'
        refine ⟨s.store.contents[1], List.getElem?_eq_getElem htwo, ?_⟩
        have hsecond := hr.payloadLength hphase'
        change s.payloadLength = (s.store.contents.getD 1 0).toNat at hsecond
        rwa [List.getD_eq_getElem _ _ htwo] at hsecond
      total := by
        rw [← hlength]
        exact hr.total
      flagged := by
        intro hphase' hversion
        have hthree : s.version.announcedAt ≤ s.store.contents.length :=
          (hr.follows_of_phase hphase').2
        rwa [hversion, hlength] at hthree }

theorem Recorded.exists_frame (h : s.Recorded config history) {byte : UInt8}
    (hcomplete : (s.step config byte).2 = .complete) :
    ∃ frame, (storedReceiver config).item (s.step config byte).1 = .ok frame ∧
      frame.toBytes = clearReserved frame.version (s.step config byte).1.store.contents ∧
      totalLength frame.version (s.step config byte).1.store.contents
        = (s.step config byte).1.store.filled := by
  have hframe := h.sound.exists_frame byte
  rw [s.step_reception h.sound] at hframe
  obtain ⟨frame, hitem, hparts, htotal⟩ := hframe hcomplete
  exact ⟨frame, hitem, hparts, htotal.trans (Store.length_contents _)⟩

theorem Recorded.error_eq (h : s.Recorded config history) {byte : UInt8} {error : LinkError}
    (hevent : ((storedReceiver config).push s byte).2 = some (.error error)) :
    error = .overrun ∧ (s.step config byte).2 = .failed .overrun := by
  change (storedReceiver config).event? (s.step config byte).1 (s.step config byte).2
    = some (.error error) at hevent
  cases houtcome : (s.step config byte).2 with
  | pending =>
    rw [houtcome] at hevent
    cases hevent
  | complete =>
    obtain ⟨frame, hitem, -⟩ := h.exists_frame houtcome
    rw [houtcome, Receiver.event?, hitem] at hevent
    cases hevent
  | failed error' =>
    rw [houtcome] at hevent
    obtain rfl : error' = error := Except.error.inj (Option.some.inj hevent)
    have herror : error' = .overrun := by
      refine h.sound.error_eq byte ?_
      rw [s.step_reception h.sound]
      exact houtcome
    exact ⟨herror, congrArg Outcome.failed herror⟩

/-- **What the invariant says of the storage.** -/
theorem Recorded.represents (h : s.Recorded config history) : s.Represents config history where
  filled_le := s.store.filled_le
  counts := by
    intro remaining hcount
    by_cases hidle : s.phase = .marker
    · rw [hidle] at hcount
      cases hcount
    · exact (h.sound hidle).remaining_pos hcount
  part := h.holdsPart
  whole _ := h.exists_frame
  errors _ _ := h.error_eq

end Stored

/-- **The storage of a receiver holds the part of a frame that has come.**

Every state that pushes, bulk pushes and resets lead to has a history, which is all the bytes they
took.  In the middle of a frame the cells in use hold the last of them, from a marker on that tells
the version; the payload length is the second, once that has come; and the bytes held and the bytes
owed make up the total length that they announce.  A phase that counts has a byte left to count, and
the third byte has come when the signature flag in it is asked for.  When a frame is complete, the
cells in use are that frame and nothing else, and it is never refused. -/
theorem storage_holds_frame_part (config : Config) :
    (∀ state, (storedReceiver config).Reachable state ↔
      ∃ history, (storedReceiver config).recording.Reachable (state, history)) ∧
    ∀ state history, (storedReceiver config).recording.Reachable (state, history) →
      state.Represents config history :=
  ⟨fun _ => (storedReceiver config).reachable_iff_exists_history,
    fun _ _ h => (Stored.recorded h).represents⟩

/-- A frame of eight bytes, its last byte still to come, behind a frame that was given up and a byte
of noise. -/
theorem storage_holds_frame_part_last_byte :
    let config : Config := ⟨8, Config.bothMarkers⟩
    let frames := storedReceiver config
    let history : List UInt8 := [0xFD, 3, 0x55, 0xFE, 0, 1, 2, 3, 4, 0x12]
    let abandoned := (frames.pushBytes frames.fresh [0xFD, 3]).1
    let state := (frames.pushBytes (frames.reset abandoned) (history.drop 2)).1
    state.store.contents = [0xFE, 0, 1, 2, 3, 4, 0x12] ∧ state.phase = .checksum 1 ∧
      state.HoldsPart config history ∧
      ∃ frame, frames.item (state.step config 0x34).1 = .ok frame ∧
        frame.toBytes = [0xFE, 0, 1, 2, 3, 4, 0x12, 0x34] := by
  intro config frames history abandoned state
  have habandoned : frames.recording.Reachable (abandoned, history.take 2) :=
    .pushBytes .fresh (history.take 2)
  have hreachable : frames.recording.Reachable (state, history) :=
    habandoned.reset.pushBytes (history.drop 2)
  obtain ⟨-, hholds⟩ := storage_holds_frame_part config
  have hstate := hholds state history hreachable
  obtain ⟨frame, hitem, hparts, -⟩ := hstate.whole 0x34 rfl
  have hcontents : (state.step config 0x34).1.store.contents
      = [0xFE, 0, 1, 2, 3, 4, 0x12, 0x34] := by decide +kernel
  refine ⟨by decide +kernel, rfl, hstate.part nofun, frame, hitem, ?_⟩
  rw [hparts, hcontents]
  cases frame.version <;> rfl

end VehicleLink.Frame
