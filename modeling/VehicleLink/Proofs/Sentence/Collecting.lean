import VehicleLink.Proofs.Sentence.Layout

/-!
# Proofs/Sentence/Collecting — what a receiver knows in the middle of a sentence

`Collecting` is the invariant of a reception that has seen a start character: what it holds is a
body and, behind a star, a part of the ending (`Reception.received`), and the checksum and the
places it keeps are those of that body.  A byte either is received and keeps the invariant, or
causes the first event of the bytes received (`Collecting.step_cases`).
-/

namespace VehicleLink.Sentence

namespace Reception

/-- The bytes received after the body. -/
def ended (r : Reception) : List UInt8 :=
  match r.phase with
  | .start | .fields => []
  | .firstDigit => [0x2A]
  | .secondDigit => [0x2A, r.digits.1]
  | .carriageReturn => [0x2A, r.digits.1, r.digits.2]
  | .lineFeed => [0x2A, r.digits.1, r.digits.2, 0x0D]

/-- The bytes received after the start character. -/
def received (r : Reception) : List UInt8 := r.body ++ r.ended

/-- Whether the places kept are those of the body: before the star, of all pieces but the last,
which is still open. -/
def Placed (r : Reception) : Prop :=
  match r.phase with
  | .start => False
  | .fields => ∃ closed last, commaPiecesOf r.body = closed ++ [last] ∧
      r.fieldStart = width closed ∧ r.Marks closed
  | _ => r.Marks (commaPiecesOf r.body)

end Reception

/-- **The invariant of a reception in the middle of a sentence.** -/
structure Collecting (config : Config) (r : Reception) : Prop where
  plain : ∀ byte ∈ r.body, isBody byte
  fits : r.body.length ≤ config.capacity
  checksum : r.checksum = Checksum.ofBytes r.body
  placed : r.Placed

/-- A start character begins an empty body. -/
theorem Collecting.begin (config : Config) (r : Reception) : Collecting config r.begin where
  plain := nofun
  fits := Nat.zero_le _
  checksum := rfl
  placed := ⟨[], [], rfl, rfl, rfl, rfl⟩

namespace Collecting

variable {config : Config} {r : Reception}

theorem checksum_append (h : Collecting config r) (byte : UInt8) :
    Checksum.step r.checksum byte = Checksum.ofBytes (r.body ++ [byte]) := by
  rw [h.checksum, Checksum.ofBytes, Checksum.ofBytes, Checksum.accumulate, Checksum.accumulate,
    List.foldl_append]
  rfl

/-- The reception with one more byte of the body.  The places are left to the caller. -/
theorem append (h : Collecting config r) {byte : UInt8} (hbyte : isBody byte)
    (hroom : r.body.length < config.capacity) {next : Reception}
    (hbody : next.body = r.body ++ [byte])
    (hsum : next.checksum = Checksum.step r.checksum byte) (hplaced : next.Placed) :
    Collecting config next where
  plain := by
    rw [hbody]
    intro byte' hmem
    rcases List.mem_append.mp hmem with hmem | hmem
    · exact h.plain byte' hmem
    · rwa [List.mem_singleton.mp hmem]
  fits := by
    rw [hbody, List.length_append]
    exact hroom
  checksum := by rw [hbody, hsum, h.checksum_append]
  placed := hplaced

end Collecting

/-! ## One byte -/

namespace Reception

section Fields

variable {config : Config} {r : Reception} (hphase : r.phase = .fields)

include hphase

theorem step_of_comma (hroom : r.body.length < config.capacity) :
    r.step config 0x2C
      = ({ r.closeField with
            body := r.body ++ [0x2C], checksum := Checksum.step r.checksum 0x2C,
            fieldStart := (r.body ++ [0x2C]).length }, .pending) := by
  have hlf : (0x2C : UInt8) ≠ 0x0A := by decide
  have hstar : (0x2C : UInt8) ≠ 0x2A := by decide
  simp only [step, hphase, if_neg hlf, if_neg hstar, if_true, Reception.append, closeField_body,
    closeField_checksum, if_pos hroom]

theorem step_of_other {byte : UInt8} (hbyte : isBody byte) (hcomma : byte ≠ 0x2C)
    (hroom : r.body.length < config.capacity) :
    r.step config byte
      = ({ r with body := r.body ++ [byte], checksum := Checksum.step r.checksum byte },
          .pending) := by
  obtain ⟨hstar, hlf⟩ : byte ≠ 0x2A ∧ byte ≠ 0x0A := by simpa [isBody] using hbyte
  simp only [step, hphase, if_neg hlf, if_neg hstar, if_neg hcomma, Reception.append, if_pos hroom]

theorem step_of_full {byte : UInt8} (hbyte : isBody byte)
    (hfull : config.capacity ≤ r.body.length) :
    ∃ last, r.step config byte = (last, .failed .overrun) ∧ last.phase = .start := by
  obtain ⟨hstar, hlf⟩ : byte ≠ 0x2A ∧ byte ≠ 0x0A := by simpa [isBody] using hbyte
  have hroom := Nat.not_lt.mpr hfull
  by_cases hcomma : byte = 0x2C
  · simp only [step, hphase, if_neg hlf, if_neg hstar, if_pos hcomma, Reception.append,
      closeField_body, if_neg hroom]
    exact ⟨_, rfl, rfl⟩
  · simp only [step, hphase, if_neg hlf, if_neg hstar, if_neg hcomma, Reception.append,
      if_neg hroom]
    exact ⟨_, rfl, rfl⟩

end Fields

end Reception

/-- What a byte does in the middle of a sentence: it is received, or it is the last of the bytes
that the first event after the start character takes, and that event is reported. -/
def Advances (config : Config) (r : Reception) (byte : UInt8) : Prop :=
  (∃ next, r.step config byte = (next, .pending) ∧ Collecting config next ∧
      next.received = r.received ++ [byte]) ∨
    ∃ last outcome event, r.step config byte = (last, outcome) ∧ last.phase = .start ∧
      (receiver config).event? last outcome = some event ∧
      ∀ rest, firstEvent config (r.received ++ byte :: rest) = some (r.received.length + 1, event)

namespace Collecting

variable {config : Config} {r : Reception}

theorem phase_ne_start (h : Collecting config r) : r.phase ≠ .start := by
  intro hphase
  have hplaced := h.placed
  rw [Reception.Placed, hphase] at hplaced
  exact hplaced

theorem received_of_fields (hphase : r.phase = .fields) : r.received = r.body := by
  rw [Reception.received, Reception.ended, hphase, List.append_nil]

/-- The star closes the last piece. -/
theorem advances_star (h : Collecting config r) (hphase : r.phase = .fields) :
    Advances config r 0x2A := by
  have hplaced := h.placed
  rw [Reception.Placed, hphase] at hplaced
  obtain ⟨closed, last, hsplit, hstart, hmarks⟩ := hplaced
  have hclosed := hmarks.closeField hsplit hstart
  rw [← hsplit] at hclosed
  refine .inl ⟨{ r.closeField with phase := .firstDigit }, ?_, ?_, ?_⟩
  · rw [Reception.step, hphase]
    rfl
  · exact
      { plain := by simpa using h.plain
        fits := by simpa using h.fits
        checksum := by simpa using h.checksum
        placed := by
          change Reception.Marks _ (commaPiecesOf r.closeField.body)
          rw [Reception.closeField_body]
          exact ⟨hclosed.headerEnd, hclosed.ranges⟩ }
  · rw [received_of_fields hphase, ← r.closeField_body]
    rfl

/-- A comma closes the last piece, and the next one starts behind it. -/
theorem advances_comma (h : Collecting config r) (hphase : r.phase = .fields)
    (hroom : r.body.length < config.capacity) : Advances config r 0x2C := by
  have hplaced := h.placed
  rw [Reception.Placed, hphase] at hplaced
  obtain ⟨closed, last, hsplit, hstart, hmarks⟩ := hplaced
  have hclosed := hmarks.closeField hsplit hstart
  have hphase' : r.closeField.phase = .fields := (Reception.closeField_phase r).trans hphase
  refine .inl ⟨_, Reception.step_of_comma hphase hroom, h.append rfl hroom rfl rfl ?_, ?_⟩
  · rw [Reception.Placed, hphase']
    refine ⟨closed ++ [last], [], ?_, ?_, hclosed.headerEnd, hclosed.ranges⟩
    · exact (commaPiecesOf_comma r.body).trans (congrArg (· ++ [[]]) hsplit)
    · rw [width_append, width, width, List.length_append, ← width_add_length hsplit]
      rfl
  · rw [received_of_fields hphase]
    exact received_of_fields hphase'

theorem advances_other (h : Collecting config r) (hphase : r.phase = .fields) {byte : UInt8}
    (hbyte : isBody byte) (hcomma : byte ≠ 0x2C) (hroom : r.body.length < config.capacity) :
    Advances config r byte := by
  have hplaced := h.placed
  rw [Reception.Placed, hphase] at hplaced
  obtain ⟨closed, last, hsplit, hstart, hmarks⟩ := hplaced
  refine .inl ⟨_, Reception.step_of_other hphase hbyte hcomma hroom,
    h.append hbyte hroom rfl rfl ?_, ?_⟩
  · rw [Reception.Placed, hphase]
    exact ⟨closed, last ++ [byte], commaPiecesOf_other hsplit hcomma, hstart,
      hmarks.headerEnd, hmarks.ranges⟩
  · rw [received_of_fields hphase]
    exact received_of_fields hphase

theorem advances_fields (h : Collecting config r) (hphase : r.phase = .fields) (byte : UInt8) :
    Advances config r byte := by
  by_cases hlf : byte = 0x0A
  · refine .inr ⟨r.reset, .failed .protocolViolation, .error .protocolViolation, ?_, rfl, rfl,
      fun rest => ?_⟩
    · rw [Reception.step, hphase]
      exact if_pos hlf
    · rw [hlf, received_of_fields hphase]
      exact firstEvent_lineFeed h.plain h.fits rest
  by_cases hstar : byte = 0x2A
  · rw [hstar]
    exact h.advances_star hphase
  have hbyte : isBody byte := by
    rw [isBody, decide_eq_true hstar, decide_eq_true hlf]
    rfl
  rcases Nat.lt_or_ge r.body.length config.capacity with hroom | hfull
  · by_cases hcomma : byte = 0x2C
    · rw [hcomma]
      exact h.advances_comma hphase hroom
    · exact h.advances_other hphase hbyte hcomma hroom
  · obtain ⟨last, hstep, hidle⟩ := Reception.step_of_full hphase hbyte hfull
    refine .inr ⟨last, .failed .overrun, .error .overrun, hstep, hidle, rfl, fun rest => ?_⟩
    rw [received_of_fields hphase]
    exact firstEvent_overrun h.plain h.fits hfull hbyte rest

/-- Behind the star the places are those of all pieces. -/
theorem marks (h : Collecting config r) (hstar : r.phase ≠ .fields) :
    r.Marks (commaPiecesOf r.body) := by
  have hplaced := h.placed
  rw [Reception.Placed] at hplaced
  cases hphase : r.phase with
  | start =>
    rw [hphase] at hplaced
    exact hplaced.elim
  | fields => exact absurd hphase hstar
  | _ =>
    rw [hphase] at hplaced
    exact hplaced

/-- Behind the star only the digits change. -/
theorem goOn (h : Collecting config r) (hstar : r.phase ≠ .fields) (phase : Phase)
    (hphase : phase ≠ .start ∧ phase ≠ .fields) (digits : UInt8 × UInt8) :
    Collecting config { r with phase := phase, digits := digits } where
  plain := h.plain
  fits := h.fits
  checksum := h.checksum
  placed := by
    have hmarks := h.marks hstar
    cases phase with
    | start => exact absurd rfl hphase.1
    | fields => exact absurd rfl hphase.2
    | _ => exact ⟨hmarks.headerEnd, hmarks.ranges⟩

/-- The line break reports the verdict. -/
theorem validate (h : Collecting config r) (hstar : r.phase ≠ .fields) :
    r.validate.1.phase = .start ∧
      (receiver config).event? r.validate.1 r.validate.2
        = some (verdict r.body r.digits.1 r.digits.2) := by
  have hsum : r.checksum = r.body.foldl (· ^^^ ·) 0 := h.checksum
  rw [Reception.validate, Checksum.ofDigits, digitValue?_eq_digit?, digitValue?_eq_digit?, verdict,
    ← hsum]
  cases digit? r.digits.1 with
  | none => exact ⟨rfl, rfl⟩
  | some high =>
    cases digit? r.digits.2 with
    | none => exact ⟨rfl, rfl⟩
    | some low =>
      by_cases heq : UInt8.ofNat (16 * high + low) = r.checksum
      · simp only [heq, if_true, ne_eq, not_true_eq_false, if_false]
        exact ⟨rfl, congrArg some (h.marks hstar).sentence_eq⟩
      · simp only [heq, if_false, ne_eq, not_false_eq_true, if_true]
        exact ⟨rfl, rfl⟩

/-- A byte that is no part of the ending gives the sentence up. -/
theorem advances_violation {byte : UInt8}
    (hstep : r.step config byte = (r.reset, .failed .protocolViolation))
    (hfirst : ∀ rest, firstEvent config (r.received ++ byte :: rest)
      = some (r.received.length + 1, .error .protocolViolation)) : Advances config r byte :=
  .inr ⟨r.reset, .failed .protocolViolation, .error .protocolViolation, hstep, rfl, rfl, hfirst⟩

theorem advances_firstDigit (h : Collecting config r) (hphase : r.phase = .firstDigit)
    (byte : UInt8) : Advances config r byte := by
  have hstar : r.phase ≠ .fields := by rw [hphase]; exact nofun
  refine .inl ⟨_, ?_, h.goOn hstar .secondDigit ⟨nofun, nofun⟩ (byte, r.digits.2), ?_⟩
  · rw [Reception.step, hphase]
  · rw [Reception.received, Reception.received, Reception.ended, Reception.ended, hphase,
      List.append_assoc]
    rfl

theorem advances_secondDigit (h : Collecting config r) (hphase : r.phase = .secondDigit)
    (byte : UInt8) : Advances config r byte := by
  have hstar : r.phase ≠ .fields := by rw [hphase]; exact nofun
  refine .inl ⟨_, ?_, h.goOn hstar .carriageReturn ⟨nofun, nofun⟩ (r.digits.1, byte), ?_⟩
  · rw [Reception.step, hphase]
  · rw [Reception.received, Reception.received, Reception.ended, Reception.ended, hphase,
      List.append_assoc]
    rfl

theorem advances_carriageReturn (h : Collecting config r) (hphase : r.phase = .carriageReturn)
    (byte : UInt8) : Advances config r byte := by
  have hstar : r.phase ≠ .fields := by rw [hphase]; exact nofun
  have hreceived : r.received = r.body ++ [0x2A, r.digits.1, r.digits.2] := by
    rw [Reception.received, Reception.ended, hphase]
  by_cases hbyte : byte = 0x0D
  · refine .inl ⟨_, ?_, h.goOn hstar .lineFeed ⟨nofun, nofun⟩ r.digits, ?_⟩
    · rw [Reception.step, hphase]
      exact if_pos hbyte
    · rw [hreceived, hbyte, List.append_assoc]
      rfl
  · refine advances_violation ?_ fun rest => ?_
    · rw [Reception.step, hphase]
      exact if_neg hbyte
    · rw [hreceived, List.append_assoc, List.length_append]
      refine (firstEvent_star h.plain h.fits (r.digits.1 :: r.digits.2 :: byte :: rest)).trans ?_
      rw [ending_carriageReturn hbyte]
      rfl

theorem advances_lineFeed (h : Collecting config r) (hphase : r.phase = .lineFeed)
    (byte : UInt8) : Advances config r byte := by
  have hstar : r.phase ≠ .fields := by rw [hphase]; exact nofun
  have hreceived : r.received = r.body ++ [0x2A, r.digits.1, r.digits.2, 0x0D] := by
    rw [Reception.received, Reception.ended, hphase]
  have hfirst (rest : List UInt8) :=
    firstEvent_star h.plain h.fits (r.digits.1 :: r.digits.2 :: 0x0D :: byte :: rest)
  by_cases hbyte : byte = 0x0A
  · obtain ⟨hidle, hevent⟩ := h.validate hstar
    refine .inr ⟨_, _, _, ?_, hidle, hevent, fun rest => ?_⟩
    · rw [Reception.step, hphase]
      exact if_pos hbyte
    · rw [hreceived, List.append_assoc, List.length_append]
      refine (hfirst rest).trans ?_
      rw [ending_lineFeed, if_pos hbyte]
      rfl
  · refine advances_violation ?_ fun rest => ?_
    · rw [Reception.step, hphase]
      exact if_neg hbyte
    · rw [hreceived, List.append_assoc, List.length_append]
      refine (hfirst rest).trans ?_
      rw [ending_lineFeed, if_neg hbyte]
      rfl

/-- **A byte in the middle of a sentence is received or causes its first event.** -/
theorem advances (h : Collecting config r) (byte : UInt8) : Advances config r byte := by
  cases hphase : r.phase with
  | start => exact absurd hphase h.phase_ne_start
  | fields => exact h.advances_fields hphase byte
  | firstDigit => exact h.advances_firstDigit hphase byte
  | secondDigit => exact h.advances_secondDigit hphase byte
  | carriageReturn => exact h.advances_carriageReturn hphase byte
  | lineFeed => exact h.advances_lineFeed hphase byte

/-- Before that event there is none. -/
theorem firstEvent_received (h : Collecting config r) : firstEvent config r.received = none := by
  have hfirst (tail : List UInt8) := firstEvent_star h.plain h.fits tail
  rw [Reception.received, Reception.ended]
  cases hphase : r.phase with
  | start | fields =>
    rw [List.append_nil]
    exact firstEvent_body h.plain h.fits
  | firstDigit => exact hfirst []
  | secondDigit => exact hfirst [r.digits.1]
  | carriageReturn => exact hfirst [r.digits.1, r.digits.2]
  | lineFeed => exact hfirst [r.digits.1, r.digits.2, 0x0D]

end Collecting

end VehicleLink.Sentence
