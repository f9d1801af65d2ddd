import VehicleLink.Proofs.Frame.Corruption
import VehicleLink.Proofs.Frame.Link
import VehicleLink.Proofs.Receiver.Countdown
import VehicleLink.Proofs.Receivers
import VehicleLink.Proofs.Sentence.Link

/-!
# Proofs/Resynchronisation — no state of a receiver is for good

Garbage can leave a receiver in the middle of a frame or a sentence that never was one: a length
that is wrong, a star that is missing.  It does not stay there.  A frame takes no more bytes than its
room and its kind allow, a sentence no more than its room and its ending, so after that many bytes
that start nothing new both receivers are between two items (`receivers_resynchronise`).
-/

namespace VehicleLink

open Receiver

/-! ## Frames -/

namespace Frame

/-- How many bytes a reception may still take before it is between two frames: up to the first byte
past the room, or up to the end of the longest frame. -/
def Reception.patience (config : Config) (r : Reception) : Nat :=
  if r.phase = .marker then 0 else min 280 (config.capacity + 1) - r.received.length

section Patience

variable {config : Config} {r : Reception}

theorem Reception.patience_of_idle (h : r.phase = .marker) : r.patience config = 0 := if_pos h

theorem Collecting.patience_eq (h : Collecting config r) :
    r.patience config = min 280 (config.capacity + 1) - r.received.length :=
  if_neg h.phase_ne_marker

/-- In the middle of a frame there is room for a byte, or for finding that there is none. -/
theorem Collecting.patience_pos (h : Collecting config r) : 0 < r.patience config := by
  have hfits := h.fits
  have hshort := h.length_lt_totalLength []
  have hmax := totalLength_le_maxLength r.version (r.received ++ [])
  rw [h.patience_eq]
  omega

/-- **A byte that starts no frame brings the end of the one in progress nearer.** -/
theorem Reception.patience_step (h : r.Sound config) {byte : UInt8}
    (hbyte : startsVersion? config byte = none) :
    (r.step config byte).1.patience config ≤ r.patience config - 1 := by
  by_cases hidle : r.phase = .marker
  · rw [r.step_of_skip hidle ((versionOf?_eq_startsVersion? config byte).trans hbyte),
      patience_of_idle hidle]
  have hr := h hidle
  rcases Nat.lt_or_ge r.received.length config.capacity with hroom | hfull
  · rcases hr.step_of_room hroom byte with
      ⟨next, hstep, -, hreceived, hnext⟩ | ⟨last, hstep, hlast, -, -⟩
    · rw [hstep, hnext.patience_eq, hr.patience_eq, hreceived, List.length_append,
        List.length_singleton, Nat.sub_sub]
    · rw [hstep, patience_of_idle hlast]
      exact Nat.zero_le _
  · rw [hr.step_of_full hfull byte, patience_of_idle rfl]
    exact Nat.zero_le _

end Patience

theorem receiver_countdown (config : Config) :
    (receiver config).Countdown (·.phase = .marker) (Reception.Sound config)
      (startsVersion? config · = none) (Reception.patience config)
      (min 280 (config.capacity + 1)) where
  sound_fresh h := absurd rfl h
  sound_reset _ h := absurd rfl h
  sound_step h byte := h.step byte
  patience_le r := by
    rw [Reception.patience]
    split <;> omega
  patience_step h _ hbyte := Reception.patience_step h hbyte
  idle_of_patience h hzero := Decidable.byContradiction fun hphase =>
    Nat.ne_of_gt (h hphase).patience_pos hzero

theorem receiver_resynchronises (config : Config) :
    (receiver config).Resynchronises (·.phase = .marker) (startsVersion? config · = none)
      (Whole config) (min 280 (config.capacity + 1)) :=
  (receiver_countdown config).resynchronises asFresh_of_idle fun hitem place =>
    (events_of_idle rfl place _).trans (hitem.reports.alone _ (grammar_nil config) place)

end Frame

/-! ## Sentences -/

namespace Sentence

/-- How many bytes a reception may still take before it is between two sentences: what is left of
the room for the body, and the five bytes from the star on. -/
def Reception.patience (config : Config) (r : Reception) : Nat :=
  match r.phase with
  | .start => 0
  | .fields => config.capacity - r.body.length + 5
  | .firstDigit => 4
  | .secondDigit => 3
  | .carriageReturn => 2
  | .lineFeed => 1

namespace Reception

theorem patience_of_idle {r : Reception} (h : r.phase = .start) (config : Config) :
    r.patience config = 0 := by
  rw [patience, h]

theorem patience_append (config : Config) {r : Reception} (hphase : r.phase = .fields)
    (byte : UInt8) : (r.append config byte).1.patience config ≤ r.patience config - 1 := by
  rw [append]
  split
  · next hroom =>
    simp only [patience, hphase, List.length_append, List.length_singleton]
    omega
  · exact Nat.zero_le _

theorem patience_validate (config : Config) (r : Reception) : r.validate.1.patience config = 0 := by
  rw [validate]
  split
  · rfl
  · split <;> rfl

theorem patience_fields (config : Config) {r : Reception} (hphase : r.phase = .fields)
    (byte : UInt8) : (r.step config byte).1.patience config ≤ r.patience config - 1 := by
  have hfields : r.patience config = config.capacity - r.body.length + 5 := by
    rw [patience, hphase]
  have hclosed : r.closeField.patience config = r.patience config := by
    rw [patience, patience, closeField_phase, closeField_body]
  rw [step, hphase]
  dsimp only
  split
  · exact Nat.zero_le _
  split
  · rw [hfields]
    exact Nat.le_add_left 4 _
  split
  · rw [← hclosed]
    exact patience_append config ((closeField_phase r).trans hphase) byte
  · exact patience_append config hphase byte

/-- **A byte that starts no sentence brings the end of the one in progress nearer**, whatever has
been collected. -/
theorem patience_step {config : Config} {r : Reception} {byte : UInt8}
    (hbyte : byte ∉ config.starts) :
    (r.step config byte).1.patience config ≤ r.patience config - 1 := by
  cases hphase : r.phase with
  | start =>
    have hstep : r.step config byte = (r, .pending) := by
      rw [step, hphase]
      exact if_neg (mt List.contains_iff_mem.mp hbyte)
    rw [hstep, patience_of_idle hphase]
  | fields => exact patience_fields config hphase byte
  | firstDigit =>
    rw [step, patience, patience, hphase]
    exact Nat.le_refl 3
  | secondDigit =>
    rw [step, patience, patience, hphase]
    exact Nat.le_refl 2
  | carriageReturn =>
    rw [step, hphase]
    dsimp only
    split
    · rw [patience, patience, hphase]
      exact Nat.le_refl 1
    · exact Nat.zero_le _
  | lineFeed =>
    rw [step, hphase]
    dsimp only
    split
    · rw [patience_validate]
      exact Nat.zero_le _
    · exact Nat.zero_le _

end Reception

theorem receiver_countdown (config : Config) :
    (receiver config).Countdown (·.phase = .start) (fun _ => True) (· ∉ config.starts)
      (Reception.patience config) (config.capacity + 5) where
  sound_fresh := trivial
  sound_reset _ := trivial
  sound_step _ _ := trivial
  patience_le r := by
    rw [Reception.patience]
    split <;> omega
  patience_step _ _ hbyte := Reception.patience_step hbyte
  idle_of_patience {r} _ hzero := by
    cases hphase : r.phase with
    | start => rfl
    | _ => simp [Reception.patience, hphase] at hzero

theorem receiver_resynchronises (config : Config) :
    (receiver config).Resynchronises (·.phase = .start) (· ∉ config.starts) (Whole config)
      (config.capacity + 5) :=
  (receiver_countdown config).resynchronises asFresh_of_idle fun hitem place =>
    (events_of_idle rfl place _).trans (hitem.reports.alone _ (grammar_nil config) place)

end Sentence

/-! ## Both receivers -/

/-- **Both receivers find their way back**, for every set-up and after every input: frames after as
many bytes as the longest one has, or one more than there is room for, sentences after the room for
a body and five bytes more.  It is the same in storage of fixed size. -/
theorem receivers_resynchronise (frames : Frame.Config) (sentences : Sentence.Config) :
    ((Frame.receiver frames).Resynchronises (·.phase = .marker)
        (Frame.startsVersion? frames · = none) (Frame.Whole frames)
        (min 280 (frames.capacity + 1)) ∧
      (Frame.storedReceiver frames).Resynchronises (·.phase = .marker)
        (Frame.startsVersion? frames · = none) (Frame.Whole frames)
        (min 280 (frames.capacity + 1))) ∧
    ((Sentence.receiver sentences).Resynchronises (·.phase = .start) (· ∉ sentences.starts)
        (Sentence.Whole sentences) (sentences.capacity + 5) ∧
      (Sentence.storedReceiver sentences).Resynchronises (·.phase = .start)
        (· ∉ sentences.starts) (Sentence.Whole sentences) (sentences.capacity + 5)) :=
  have hframes := Frame.receiver_resynchronises frames
  have hsentences := Sentence.receiver_resynchronises sentences
  ⟨⟨hframes, (Frame.storedReceiver_carriesOut frames).resynchronises hframes⟩,
    hsentences, (Sentence.storedReceiver_carriesOut sentences).resynchronises hsentences⟩

/-- A frame that announces more bytes than there is room for, and a sentence that never gets to its
star: both are given up in time for what follows. -/
theorem receivers_resynchronise_after_garbage :
    let frames := Frame.receiver ⟨20, [0xFD]⟩
    let sentences := Sentence.receiver ⟨8, [0x24]⟩
    let oversized := (frames.run frames.fresh 0 [0xFD, 255]).1
    let starless := (sentences.run sentences.fresh 0 [0x24, 0x41]).1
    (oversized.phase = .incompat ∧ starless.phase = .fields) ∧
      (frames.run (frames.run oversized 2 (.replicate 21 0)).1 23 Frame.heartbeatBytes).2
        = [(40, .ok (Frame.cut .v2 Frame.heartbeatBytes))] ∧
      (sentences.run (sentences.run starless 2 (.replicate 13 0x41)).1 15
          [0x24, 0x41, 0x2A, 0x34, 0x31, 0x0D, 0x0A]).2
        = [(21, Sentence.verdict [0x41] 0x34 0x31)] := by
  intro frames sentences oversized starless
  obtain ⟨⟨hframes, -⟩, hsentences, -⟩ := receivers_resynchronise ⟨20, [0xFD]⟩ ⟨8, [0x24]⟩
  have hframe : Frame.Whole ⟨20, [0xFD]⟩ Frame.heartbeatBytes
      (.ok (Frame.cut .v2 Frame.heartbeatBytes)) :=
    .frame ⟨_, _, rfl, rfl⟩ rfl (by decide)
  have hsentence : Sentence.Whole ⟨8, [0x24]⟩ [0x24, 0x41, 0x2A, 0x34, 0x31, 0x0D, 0x0A]
      (Sentence.verdict [0x41] 0x34 0x31) :=
    @Sentence.Whole.sentence ⟨8, [0x24]⟩ 0x24 [0x41] (by decide)
      (List.forall_mem_singleton.mpr (by decide)) (by decide) _ _
  refine ⟨⟨rfl, rfl⟩, ?_, ?_⟩
  · refine hframes.delivers (.run (Reachable.fresh.run 0 _) ?_ (by decide) 2) hframe 23
    intro byte hbyte
    rw [List.eq_of_mem_replicate hbyte]
    rfl
  · refine hsentences.delivers (.run (Reachable.fresh.run 0 _) ?_ (by decide) 2) hsentence 15
    intro byte hbyte
    rw [List.eq_of_mem_replicate hbyte]
    decide

end VehicleLink
