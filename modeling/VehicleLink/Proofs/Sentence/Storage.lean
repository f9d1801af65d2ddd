import VehicleLink.Proofs.Bytes.Store
import VehicleLink.Proofs.Receiver.Implementation
import VehicleLink.Sentence.Receiver

/-!
# Proofs/Sentence/Storage — receiving sentences in storage of fixed size

Carried out in fixed storage (`Stored`), a reception writes the body over what earlier sentences have
left in the store, and the places of the fields over theirs in a table of their own.  It reads nothing
but the cells in use, so `storedReceiver` carries out `receiver` (`storedReceiver_carriesOut`).
-/

namespace VehicleLink.Sentence

/-- A reception whose body and places lie in storage of fixed size. -/
structure Stored (capacity : Nat) where
  phase : Phase
  store : Store UInt8 capacity
  checksum : UInt8
  digits : UInt8 × UInt8
  headerEnd : Option Nat
  fieldStart : Nat
  table : Store (Nat × Nat) maxFields

namespace Stored

variable {capacity : Nat}

/-- The state before the first byte. -/
def fresh : Stored capacity := ⟨.start, .fresh 0, 0, (0, 0), none, 0, .fresh (0, 0)⟩

/-- Gives up the sentence that is being collected. -/
def reset (s : Stored capacity) : Stored capacity := { s with phase := .start }

/-- Starts to collect a body. -/
def begin (s : Stored capacity) : Stored capacity :=
  { s with
    phase := .fields, store := s.store.clear, checksum := 0, headerEnd := none, fieldStart := 0,
    table := s.table.clear }

/-- Gives the sentence up for a reason. -/
def fail (s : Stored capacity) (error : LinkError) : Stored capacity × Outcome :=
  (s.reset, .failed error)

/-- Collects a byte of the body, or gives the sentence up for want of room. -/
def append (s : Stored capacity) (byte : UInt8) : Stored capacity × Outcome :=
  match s.store.add? byte with
  | some store => ({ s with store := store, checksum := Checksum.step s.checksum byte }, .pending)
  | none => s.fail .overrun

/-- Ends the header or a field here. Fields past the last that is kept are dropped. -/
def closeField (s : Stored capacity) : Stored capacity :=
  match s.headerEnd with
  | none => { s with headerEnd := some s.store.filled }
  | some _ =>
    match s.table.add? (s.fieldStart, s.store.filled) with
    | some table => { s with table := table }
    | none => s

/-- Compares the digits with the checksum of the body. -/
def validate (s : Stored capacity) : Stored capacity × Outcome :=
  match Checksum.ofDigits s.digits with
  | .error error => s.fail error
  | .ok sum =>
    if sum = s.checksum then (s.reset, .complete)
    else s.fail (.checksumMismatch s.checksum.toUInt16 sum.toUInt16)

/-- Takes one byte. -/
def step (config : Config) (s : Stored config.capacity) (byte : UInt8) :
    Stored config.capacity × Outcome :=
  match s.phase with
  | .start => if config.starts.contains byte then (s.begin, .pending) else (s, .pending)
  | .fields =>
    if byte = 0x0A then s.fail .protocolViolation
    else if byte = 0x2A then ({ s.closeField with phase := .firstDigit }, .pending)
    else if byte = 0x2C then
      let (s, outcome) := s.closeField.append byte
      ({ s with fieldStart := s.store.filled }, outcome)
    else s.append byte
  | .firstDigit => ({ s with phase := .secondDigit, digits := (byte, s.digits.2) }, .pending)
  | .secondDigit => ({ s with phase := .carriageReturn, digits := (s.digits.1, byte) }, .pending)
  | .carriageReturn =>
    if byte = 0x0D then ({ s with phase := .lineFeed }, .pending) else s.fail .protocolViolation
  | .lineFeed => if byte = 0x0A then s.validate else s.fail .protocolViolation

/-- The reception that the state stands for: the one in the cells in use. -/
def reception (s : Stored capacity) : Reception :=
  ⟨s.phase, s.store.contents, s.checksum, s.digits, s.headerEnd, s.fieldStart, s.table.contents⟩

end Stored

/-- The receiver of sentences in fixed storage. -/
def storedReceiver (config : Config) : Receiver (Stored config.capacity) RawSentence where
  fresh := .fresh
  reset := Stored.reset
  step := Stored.step config
  item s := s.reception.sentence

/-! ## It stands for the receiver -/

namespace Stored

variable {capacity : Nat}

theorem begin_reception (s : Stored capacity) : s.reception.begin = s.begin.reception := by
  simp only [Reception.begin, begin, reception, Store.contents_clear]

theorem closeField_reception (s : Stored capacity) :
    s.reception.closeField = s.closeField.reception := by
  rw [Reception.closeField, closeField]
  change (match s.headerEnd with | none => _ | some _ => _) = _
  cases hheader : s.headerEnd with
  | none => simp only [reception, Store.length_contents]
  | some place =>
    change (if s.table.contents.length < maxFields then _ else _) = _
    rcases Nat.lt_or_ge s.table.contents.length maxFields with hroom | hfull
    · obtain ⟨table, htable, hcontents⟩ :=
        Store.add?_of_lt hroom (s.fieldStart, s.store.filled)
      rw [if_pos hroom]
      simp only [htable, reception, hcontents, Store.length_contents, hheader]
    · rw [if_neg (Nat.not_lt.mpr hfull)]
      simp only [Store.add?_of_ge hfull, reception, hheader]

theorem validate_reception (s : Stored capacity) :
    s.reception.validate = (s.validate.1.reception, s.validate.2) := by
  rw [Reception.validate, validate]
  change (match Checksum.ofDigits s.digits with | .error _ => _ | .ok _ => _) = _
  cases Checksum.ofDigits s.digits with
  | error error => rfl
  | ok sum =>
    change (if sum = s.checksum then _ else _) = _
    by_cases hsum : sum = s.checksum
    · simp only [if_pos hsum]
      rfl
    · simp only [if_neg hsum]
      rfl

variable {config : Config}

theorem append_reception (s : Stored config.capacity) (byte : UInt8) :
    s.reception.append config byte = ((s.append byte).1.reception, (s.append byte).2) := by
  rw [Reception.append, append]
  change (if s.store.contents.length < config.capacity then _ else _) = _
  rcases Nat.lt_or_ge s.store.contents.length config.capacity with hroom | hfull
  · obtain ⟨store, hstore, hcontents⟩ := Store.add?_of_lt hroom byte
    simp only [if_pos hroom, hstore, reception, hcontents]
  · simp only [if_neg (Nat.not_lt.mpr hfull), Store.add?_of_ge hfull byte]
    rfl

/-- **A state does what the reception does that it stands for.** -/
theorem step_reception (s : Stored config.capacity) (byte : UInt8) :
    s.reception.step config byte
      = ((s.step config byte).1.reception, (s.step config byte).2) := by
  rw [Reception.step, step]
  change (match s.phase with
    | .start => _ | .fields => _ | .firstDigit => _ | .secondDigit => _ | .carriageReturn => _
    | .lineFeed => _) = _
  cases s.phase with
  | start =>
    simp only [begin_reception]
    split <;> rfl
  | fields =>
    have hcomma := append_reception s.closeField byte
    simp only [closeField_reception, hcomma, append_reception]
    split
    · rfl
    split
    · rfl
    split
    · simp only [reception, Store.length_contents]
    · rfl
  | firstDigit => rfl
  | secondDigit => rfl
  | carriageReturn =>
    dsimp only
    split <;> rfl
  | lineFeed =>
    simp only [validate_reception]
    split <;> rfl

end Stored

/-- **The receiver in fixed storage carries out the receiver of sentences.** -/
theorem storedReceiver_carriesOut (config : Config) :
    (storedReceiver config).Implementation (receiver config) Stored.reception fun _ => True where
  sound_fresh := trivial
  view_fresh := by
    change (⟨_, (Store.fresh 0).contents, _, _, _, _, (Store.fresh (0, 0)).contents⟩ : Reception) = _
    rw [Store.contents_fresh, Store.contents_fresh]
    rfl
  sound_reset _ := trivial
  view_reset _ := rfl
  sound_step _ _ := trivial
  step_view {s} _ byte := s.step_reception byte
  item_view _ := rfl

end VehicleLink.Sentence
