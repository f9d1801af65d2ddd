import VehicleLink.Proofs.Bytes.Store
import VehicleLink.Proofs.Frame.Collecting
import VehicleLink.Proofs.Receiver.Implementation

/-!
# Proofs/Frame/Storage — receiving frames in storage of fixed size

A `Reception` collects bytes in a list.  Carried out in fixed storage (`Stored`), it writes over what
earlier frames have left there, and looks for the signature flag in the third cell, wherever the
cells in use end.  The leftovers never matter: `storedReceiver` carries out `receiver`
(`storedReceiver_carriesOut`), since that flag is asked for only once the third byte has come.
-/

namespace VehicleLink.Frame

/-! ## What a reception knows -/

/-- What a reception knows at any time: the invariant, if it is in the middle of a frame. -/
def Reception.Sound (config : Config) (r : Reception) : Prop :=
  r.phase ≠ .marker → Collecting config r

/-- What a byte does to a reception. -/
inductive Reception.Effect (config : Config) (r : Reception) (byte : UInt8) :
    Reception × Outcome → Prop where
  /-- Between frames a byte that is no marker is passed over. -/
  | skips (hidle : r.phase = .marker) : Effect config r byte (r, .pending)
  | starts {next : Reception} (hidle : r.phase = .marker) (hreceived : next.received = [byte])
    (hnext : Collecting config next) : Effect config r byte (next, .pending)
  | collects {next : Reception} (hr : Collecting config r)
    (hreceived : next.received = r.received ++ [byte]) (hnext : Collecting config next) :
    Effect config r byte (next, .pending)
  | completes {last : Reception} (hr : Collecting config r) (hidle : last.phase = .marker)
    (hreceived : last.received = r.received ++ [byte])
    (htotal : r.received.length + 1 = totalLength r.version (r.received ++ [byte])) :
    Effect config r byte (last, .complete)
  | overruns {last : Reception} (hidle : last.phase = .marker) :
    Effect config r byte (last, .failed .overrun)

/-- **A byte has one of these effects**, and no other. -/
theorem Reception.Sound.effect_step {config : Config} {r : Reception} (h : r.Sound config)
    (byte : UInt8) : r.Effect config byte (r.step config byte) := by
  by_cases hidle : r.phase = .marker
  · cases hversion : versionOf? config byte with
    | none =>
      rw [r.step_of_skip hidle hversion]
      exact .skips hidle
    | some version =>
      rcases Nat.eq_zero_or_pos config.capacity with hfull | hroom
      · obtain ⟨next, hstep, hnext⟩ := r.step_of_no_room hidle hversion hfull
        rw [hstep]
        exact .overruns hnext
      · obtain ⟨next, hstep, -, hreceived, hnext⟩ := r.step_of_marker hidle hversion hroom
        rw [hstep]
        exact .starts hidle hreceived hnext
  · have hr := h hidle
    rcases Nat.lt_or_ge r.received.length config.capacity with hroom | hfull
    · rcases hr.step_of_room hroom byte with
        ⟨next, hstep, -, hreceived, hnext⟩ | ⟨last, hstep, hlast, hreceived, htotal⟩
      · rw [hstep]
        exact .collects hr hreceived hnext
      · rw [hstep]
        exact .completes hr hlast hreceived htotal
    · rw [hr.step_of_full hfull byte]
      exact .overruns rfl

theorem Reception.Sound.step {config : Config} {r : Reception} (h : r.Sound config)
    (byte : UInt8) : (r.step config byte).1.Sound config := by
  have heffect := h.effect_step byte
  generalize r.step config byte = result at heffect ⊢
  cases heffect with
  | skips => exact h
  | starts _ _ hnext => exact fun _ => hnext
  | collects _ _ hnext => exact fun _ => hnext
  | completes _ hidle => exact fun hphase => absurd hidle hphase
  | overruns hidle => exact fun hphase => absurd hidle hphase

/-! ## Fixed storage -/

/-- A reception whose bytes lie in storage of fixed size. -/
structure Stored (capacity : Nat) where
  phase : Phase
  version : Version
  payloadLength : Nat
  store : Store UInt8 capacity

namespace Stored

variable {capacity : Nat}

/-- The state before the first byte. -/
def fresh : Stored capacity := ⟨.marker, .v2, 0, .fresh 0⟩

/-- Gives up the frame that is being collected. -/
def reset (s : Stored capacity) : Stored capacity :=
  { s with phase := .marker, store := s.store.clear }

/-- Collects a byte, or gives the frame up for want of room. -/
def append (s : Stored capacity) (byte : UInt8) : Stored capacity × Outcome :=
  match s.store.add? byte with
  | some store => ({ s with store := store }, .pending)
  | none => (s.reset, .failed .overrun)

/-- The reception that the cells hold, those in use and those behind them alike. -/
def allCells (s : Stored capacity) : Reception :=
  ⟨s.phase, s.version, s.payloadLength, s.store.cells.toList⟩

/-- The reception that the state stands for: the one in the cells in use. -/
def reception (s : Stored capacity) : Reception :=
  ⟨s.phase, s.version, s.payloadLength, s.store.contents⟩

/-- Takes one byte.  The next phase is read off all cells. -/
def step (config : Config) (s : Stored config.capacity) (byte : UInt8) :
    Stored config.capacity × Outcome :=
  match s.phase with
  | .marker =>
    match Reception.versionOf? config byte with
    | none => (s, .pending)
    | some version =>
      append { s with phase := .length, version := version, store := s.store.clear } byte
  | _ =>
    match s.append byte with
    | (s, .pending) =>
      let s := if s.phase = .length then { s with payloadLength := byte.toNat } else s
      match s.allCells.nextPhase? with
      | some phase => ({ s with phase := phase }, .pending)
      | none => ({ s with phase := .marker }, .complete)
    | failed => failed

end Stored

/-- The receiver of frames in fixed storage. -/
def storedReceiver (config : Config) : Receiver (Stored config.capacity) Frame where
  fresh := .fresh
  reset := Stored.reset
  step := Stored.step config
  item s := Frame.ofBytes s.store.contents

/-! ## It stands for the receiver -/

/-- The next phase depends on the bytes only where the signature flag is asked for. -/
theorem Reception.nextPhase?_congr {r r' : Reception} (hphase : r.phase = r'.phase)
    (hversion : r.version = r'.version) (hlength : r.payloadLength = r'.payloadLength)
    (hsigned : r.phase = .checksum 1 → r.isSigned = r'.isSigned) :
    r.nextPhase? = r'.nextPhase? := by
  rw [nextPhase?.eq_def, nextPhase?.eq_def, ← hphase, ← hversion, ← hlength]
  split <;> try rfl
  next h => rw [hsigned h]

namespace Stored

variable {config : Config} {s : Stored config.capacity}

theorem append_reception (s : Stored config.capacity) (byte : UInt8) :
    s.reception.append config byte = ((s.append byte).1.reception, (s.append byte).2) := by
  rw [Reception.append, append]
  change (if s.store.contents.length < config.capacity then _ else _) = _
  rcases Nat.lt_or_ge s.store.contents.length config.capacity with hroom | hfull
  · obtain ⟨store, hstore, hcontents⟩ := Store.add?_of_lt hroom byte
    simp only [if_pos hroom, hstore, reception, hcontents]
  · simp only [if_neg (Nat.not_lt.mpr hfull), Store.add?_of_ge hfull byte, reception, reset,
      Store.contents_clear, Reception.reset]

/-- The state with one more byte in its store, before it goes on to the next phase. -/
def take (s : Stored config.capacity) (store : Store UInt8 config.capacity) (byte : UInt8) :
    Stored config.capacity :=
  { s with
    store := store
    payloadLength := if s.phase = .length then byte.toNat else s.payloadLength }

/-- A byte in the middle of a frame, with the cases of the outcome apart. -/
theorem step_eq (hphase : s.phase ≠ .marker) (byte : UInt8) :
    s.step config byte =
      match s.store.add? byte with
      | some store =>
        match (s.take store byte).allCells.nextPhase? with
        | some phase => ({ s.take store byte with phase := phase }, .pending)
        | none => ({ s.take store byte with phase := .marker }, .complete)
      | none => (s.reset, .failed .overrun) := by
  obtain ⟨phase, version, payloadLength, store⟩ := s
  cases hadd : store.add? byte with
  | none => simp only [step, append, hadd]
  | some next =>
    simp only [step, append, take, hadd]
    cases phase with
    | marker => exact absurd rfl hphase
    | _ => rfl

/-- **The leftovers do not decide what comes next**: the third byte has come when the signature flag
is asked for. -/
theorem nextPhase?_take (hr : Collecting config s.reception) {store : Store UInt8 config.capacity}
    {byte : UInt8} (hcontents : store.contents = s.store.contents ++ [byte]) :
    (s.take store byte).allCells.nextPhase? = (s.reception.take byte).nextPhase? := by
  refine Reception.nextPhase?_congr rfl rfl rfl fun hphase => ?_
  have hannounced : s.version.announcedAt ≤ s.store.contents.length :=
    (hr.follows_of_phase hphase).2
  rw [Reception.isSigned_eq, Reception.isSigned_eq]
  change endsSigned s.version store.cells.toList
    = endsSigned s.version (s.store.contents ++ [byte])
  cases hversion : s.version with
  | v1 => rfl
  | v2 =>
    rw [hversion] at hannounced
    have hcome : 2 < store.contents.length := by
      rw [hcontents, List.length_append]
      exact Nat.lt_add_right _ hannounced
    rw [endsSigned, endsSigned, store.getD_cells hcome, hcontents]

/-- **A state does what the reception does that it stands for.** -/
theorem step_reception (h : s.reception.Sound config) (byte : UInt8) :
    s.reception.step config byte
      = ((s.step config byte).1.reception, (s.step config byte).2) := by
  by_cases hidle : s.phase = .marker
  · have hidle' : s.reception.phase = .marker := hidle
    rw [Reception.step, step, hidle', hidle]
    cases Reception.versionOf? config byte with
    | none => rfl
    | some version =>
      have happend := append_reception
        { s with phase := .length, version := version, store := s.store.clear } byte
      rw [reception, Store.contents_clear] at happend
      exact happend
  · have hr := h hidle
    rw [Reception.step_eq config hidle, step_eq hidle]
    change (if s.store.contents.length < config.capacity then _ else _) = _
    rcases Nat.lt_or_ge s.store.contents.length config.capacity with hroom | hfull
    · obtain ⟨store, hstore, hcontents⟩ := Store.add?_of_lt hroom byte
      have htake : s.reception.take byte = (s.take store byte).reception := by
        change (⟨_, _, _, s.store.contents ++ [byte]⟩ : Reception) = ⟨_, _, _, store.contents⟩
        rw [hcontents]
        rfl
      simp only [if_pos hroom, hstore, nextPhase?_take hr hcontents, htake]
      cases (s.take store byte).reception.nextPhase? with
      | none => rfl
      | some phase => rfl
    · simp only [if_neg (Nat.not_lt.mpr hfull), Store.add?_of_ge hfull byte, reception, reset,
        Store.contents_clear, Reception.reset]

end Stored

/-- **The receiver in fixed storage carries out the receiver of frames.** -/
theorem storedReceiver_carriesOut (config : Config) :
    (storedReceiver config).Implementation (receiver config) Stored.reception
      fun s => s.reception.Sound config where
  sound_fresh h := absurd rfl h
  view_fresh := by
    change (⟨_, _, _, (Store.fresh 0).contents⟩ : Reception) = _
    rw [Store.contents_fresh]
    rfl
  sound_reset _ h := absurd rfl h
  view_reset _ := by
    change (⟨_, _, _, (Store.clear _).contents⟩ : Reception) = _
    rw [Store.contents_clear]
    rfl
  sound_step h byte := by
    have hnext := h.step byte
    rwa [Stored.step_reception h] at hnext
  step_view h byte := Stored.step_reception h byte
  item_view _ := rfl

end VehicleLink.Frame
