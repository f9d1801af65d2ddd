import VehicleLink.Proofs.Frame.Collecting
import VehicleLink.Proofs.Receiver.Feed

/-!
# Proofs/Frame/Grammar — the receiver of frames follows a grammar of streams

`grammar` says what a stream holds without any state: skip to a marker, read the total length off
the bytes after it, and cut a frame or give it up at the first byte that has no room.

The receiver reports exactly this (`receiver_follows_grammar`).  The engine is a simulation
(`Tracks`): in the middle of a frame the receiver goes on as the grammar does from the marker of that
frame, whatever it held before, and one more byte keeps it so.
-/

namespace VehicleLink.Frame

/-! ## The grammar -/

/-- The version of the frame that a byte starts: a marker of a version that is also among those the
receiver is set up with. -/
def startsVersion? (config : Config) (byte : UInt8) : Option Version :=
  if byte ∈ config.markers then
    if byte = 0xFD then some .v2 else if byte = 0xFE then some .v1 else none
  else none

/-- The events of a stream with the places of their bytes, counted from `place`.  A frame that has
room is reported at its last byte.  One that has none is given up at the first byte past the room,
and that byte is dropped too. -/
def grammar (config : Config) (place : Nat) (stream : List UInt8) : List (Nat × Event Frame) :=
  match stream with
  | [] => []
  | byte :: rest =>
    match startsVersion? config byte with
    | none => grammar config (place + 1) rest
    | some version =>
      let total := totalLength version (byte :: rest)
      if total ≤ config.capacity then
        if total ≤ rest.length + 1 then
          (place + total - 1, .ok (cut version ((byte :: rest).take total)))
            :: grammar config (place + total) ((byte :: rest).drop total)
        else []
      else if config.capacity ≤ rest.length then
        (place + config.capacity, .error .overrun)
          :: grammar config (place + config.capacity + 1) (rest.drop config.capacity)
      else []
termination_by stream.length
decreasing_by
  · exact Nat.lt_succ_self _
  · have := headerLength_le_totalLength version (byte :: rest)
    rw [List.length_drop, List.length_cons]
    simp only [checksumLength] at this
    omega
  · rw [List.length_drop, List.length_cons]
    omega

/-- A stream that starts with a marker of a version. -/
def Starts (config : Config) (version : Version) (stream : List UInt8) : Prop :=
  ∃ byte rest, stream = byte :: rest ∧ startsVersion? config byte = some version

section Equations

variable {config : Config} {version : Version} {stream : List UInt8}

theorem grammar_nil (config : Config) (place : Nat) : grammar config place [] = [] := by
  rw [grammar]

/-- A byte that starts no frame is skipped. -/
theorem grammar_skip {byte : UInt8} (h : startsVersion? config byte = none) (place : Nat) :
    grammar config place (byte :: stream) = grammar config (place + 1) stream := by
  rw [grammar, h]

/-- A frame that has room is reported at its last byte. -/
theorem grammar_frame (h : Starts config version stream)
    (hroom : totalLength version stream ≤ config.capacity)
    (hend : totalLength version stream ≤ stream.length) (place : Nat) :
    grammar config place stream
      = (place + totalLength version stream - 1,
          .ok (cut version (stream.take (totalLength version stream))))
        :: grammar config (place + totalLength version stream)
            (stream.drop (totalLength version stream)) := by
  obtain ⟨byte, rest, rfl, hbyte⟩ := h
  rw [grammar, hbyte]
  exact (if_pos hroom).trans (if_pos hend)

/-- A frame that has no room is given up at the first byte past the room. -/
theorem grammar_overrun (h : Starts config version stream)
    (hover : config.capacity < totalLength version stream)
    (hlong : config.capacity < stream.length) (place : Nat) :
    grammar config place stream
      = (place + config.capacity, .error .overrun)
        :: grammar config (place + config.capacity + 1) (stream.drop (config.capacity + 1)) := by
  obtain ⟨byte, rest, rfl, hbyte⟩ := h
  rw [grammar, hbyte]
  exact (if_neg (Nat.not_le.mpr hover)).trans (if_pos (Nat.le_of_lt_succ hlong))

/-- A frame that the stream breaks off causes no event. -/
theorem grammar_unfinished (h : Starts config version stream)
    (hshort : stream.length < totalLength version stream)
    (hroom : stream.length ≤ config.capacity) (place : Nat) : grammar config place stream = [] := by
  obtain ⟨byte, rest, rfl, hbyte⟩ := h
  have hend : ¬ totalLength version (byte :: rest) ≤ rest.length + 1 := Nat.not_le.mpr hshort
  have hlong : ¬ config.capacity ≤ rest.length := Nat.not_le.mpr hroom
  rw [grammar, hbyte]
  simp only [hend, hlong, if_false, ite_self]

end Equations

/-! ## The simulation -/

theorem versionOf?_eq_startsVersion? (config : Config) (byte : UInt8) :
    Reception.versionOf? config byte = startsVersion? config byte := by
  have hmarker : Version.ofMarker? byte
      = if byte = 0xFD then some .v2 else if byte = 0xFE then some .v1 else none := by
    split
    · next h => exact Version.ofMarker?_eq_some_iff.mpr h
    · next hv2 =>
      split
      · next h => exact Version.ofMarker?_eq_some_iff.mpr h
      · next hv1 => exact Version.ofMarker?_eq_none_iff.mpr ⟨hv2, hv1⟩
  simp only [Reception.versionOf?, startsVersion?, List.contains_iff_mem, hmarker]

section Simulation

variable {config : Config} {r : Reception}

theorem Collecting.starts (h : Collecting config r) (rest : List UInt8) :
    Starts config r.version (r.received ++ rest) := by
  have hhead := h.head
  cases hreceived : r.received with
  | nil => simp [hreceived] at hhead
  | cons byte tail =>
    rw [hreceived] at hhead
    refine ⟨byte, tail ++ rest, rfl, ?_⟩
    rw [Option.some.inj hhead, ← versionOf?_eq_startsVersion?, Reception.versionOf?,
      if_pos (List.contains_iff_mem.mpr h.accepted)]
    exact Version.ofMarker?_eq_some_iff.mpr rfl

/-- The grammar waits for the rest of a frame as the receiver does. -/
theorem Collecting.grammar_received (h : Collecting config r) (place : Nat) :
    grammar config place r.received = [] := by
  have hstart := h.starts []
  have hshort := h.length_lt_totalLength []
  rw [List.append_nil] at hstart hshort
  exact grammar_unfinished hstart hshort h.fits place

/-- Where the receiver finds no room for a byte, the grammar gives the frame up. -/
theorem Collecting.grammar_full (h : Collecting config r)
    (hfull : config.capacity ≤ r.received.length) (byte : UInt8) (rest : List UInt8)
    (place : Nat) :
    grammar config place (r.received ++ byte :: rest)
      = (place + r.received.length, .error .overrun)
        :: grammar config (place + r.received.length + 1) rest := by
  have hcapacity : config.capacity = r.received.length := Nat.le_antisymm hfull h.fits
  have hover := h.length_lt_totalLength (byte :: rest)
  rw [grammar_overrun (h.starts _) (by omega) (by simp; omega), hcapacity,
    List.drop_length_add_append]
  rfl

/-- Where the receiver completes a frame, the grammar reports it. -/
theorem Collecting.grammar_last (h : Collecting config r) {byte : UInt8}
    (hroom : r.received.length < config.capacity)
    (hlast : r.received.length + 1 = totalLength r.version (r.received ++ [byte]))
    (rest : List UInt8) (place : Nat) :
    grammar config place (r.received ++ byte :: rest)
      = (place + r.received.length, ofBytes (r.received ++ [byte]))
        :: grammar config (place + r.received.length + 1) rest := by
  -- The bytes so far settle the total length, so it is that of the longer stream as well.
  have hlength : (r.received ++ [byte]).length = r.received.length + 1 := List.length_append
  have hannounced : r.version.announcedAt ≤ (r.received ++ [byte]).length := by
    have hmin := headerLength_le_totalLength r.version (r.received ++ [byte])
    have hle : r.version.announcedAt ≤ r.version.headerLength := by cases r.version <;> decide
    omega
  have hcut : ofBytes (r.received ++ [byte]) = .ok (cut r.version (r.received ++ [byte])) := by
    refine ofBytes_eq_cut r.version ?_ (by omega)
    rw [List.head?_append, h.head]
    rfl
  have hsplit : r.received ++ byte :: rest = (r.received ++ [byte]) ++ rest := by
    rw [List.append_assoc]
    rfl
  have htotal : totalLength r.version ((r.received ++ [byte]) ++ rest)
      = (r.received ++ [byte]).length := by
    rw [totalLength_append hannounced, ← hlast, hlength]
  have hstart := h.starts (byte :: rest)
  rw [hsplit] at hstart ⊢
  rw [grammar_frame hstart (by omega) (by simp only [htotal, List.length_append]; omega), htotal,
    List.take_left, List.drop_left, hcut, hlength]
  rfl

/-- A receiver tracks the grammar on a stream: between frames from the next byte on, and in the
middle of a frame from its marker on. -/
structure Tracks (config : Config) (stream : List UInt8) : Prop where
  idle : ∀ r : Reception, r.phase = .marker → ∀ place,
    ((receiver config).run r place stream).2 = grammar config place stream
  collecting : ∀ r : Reception, Collecting config r → ∀ place,
    ((receiver config).run r (place + r.received.length) stream).2
      = grammar config place (r.received ++ stream)

namespace Tracks

variable {stream : List UInt8}

theorem nil (config : Config) : Tracks config [] where
  idle _ _ place := (grammar_nil config place).symm
  collecting r h place := by
    rw [List.append_nil, h.grammar_received]
    rfl

/-- Between frames a byte is skipped, starts a frame, or is a marker that finds no room. -/
theorem cons_idle (h : Tracks config stream) (byte : UInt8) (hidle : r.phase = .marker)
    (place : Nat) :
    ((receiver config).run r place (byte :: stream)).2 = grammar config place (byte :: stream) := by
  cases hstart : startsVersion? config byte with
  | none =>
    have hstep := r.step_of_skip hidle ((versionOf?_eq_startsVersion? config byte).trans hstart)
    rw [(receiver config).events_cons hstep, grammar_skip hstart]
    exact h.idle r hidle (place + 1)
  | some version =>
    have hversion := (versionOf?_eq_startsVersion? config byte).trans hstart
    have hstarts : Starts config version (byte :: stream) := ⟨byte, stream, rfl, hstart⟩
    rcases Nat.eq_zero_or_pos config.capacity with hfull | hroom
    · obtain ⟨next, hstep, hnext⟩ := r.step_of_no_room hidle hversion hfull
      have hover : config.capacity < totalLength version (byte :: stream) := by
        have hmin := headerLength_le_totalLength version (byte :: stream)
        rw [hfull]
        exact Nat.lt_of_lt_of_le (Nat.succ_pos _) hmin
      rw [(receiver config).events_cons hstep, h.idle next hnext,
        grammar_overrun hstarts hover (hfull ▸ Nat.succ_pos _), hfull]
      rfl
    · obtain ⟨next, hstep, -, hreceived, hnext⟩ := r.step_of_marker hidle hversion hroom
      have hrest := h.collecting next hnext place
      rw [hreceived] at hrest
      rw [(receiver config).events_cons hstep]
      exact hrest

/-- In the middle of a frame a byte is received, completes the frame, or finds no room. -/
theorem cons_collecting (h : Tracks config stream) (byte : UInt8) (hr : Collecting config r)
    (place : Nat) :
    ((receiver config).run r (place + r.received.length) (byte :: stream)).2
      = grammar config place (r.received ++ byte :: stream) := by
  rcases Nat.lt_or_ge r.received.length config.capacity with hroom | hfull
  · rcases hr.step_of_room hroom byte with
      ⟨next, hstep, -, hreceived, hnext⟩ | ⟨last, hstep, hidle, hreceived, hlast⟩
    · have hrest := h.collecting next hnext place
      rw [hreceived, List.length_append, List.append_assoc] at hrest
      rw [(receiver config).events_cons hstep]
      exact hrest
    · rw [(receiver config).events_cons hstep, hr.grammar_last hroom hlast,
        h.idle last hidle, ← hreceived]
      rfl
  · rw [(receiver config).events_cons (hr.step_of_full hfull byte), hr.grammar_full hfull,
      h.idle r.reset rfl]
    rfl

end Tracks

/-- **A receiver tracks the grammar on every stream.** -/
theorem tracks (config : Config) (stream : List UInt8) : Tracks config stream := by
  induction stream with
  | nil => exact .nil config
  | cons byte stream ih =>
    exact ⟨fun r hidle => ih.cons_idle byte hidle, fun r h => ih.cons_collecting byte h⟩

/-- Between frames the events to come do not depend on what the receiver held before. -/
theorem events_of_idle (hidle : r.phase = .marker) (place : Nat) (stream : List UInt8) :
    ((receiver config).run r place stream).2 = grammar config place stream :=
  (tracks config stream).idle r hidle place

end Simulation

/-! ## Errors -/

/-- Every error is for want of room, and happens only to a frame that is longer than the room. -/
theorem grammar_error {config : Config} {place : Nat} {stream : List UInt8}
    {event : Nat × Event Frame} (h : event ∈ grammar config place stream) :
    (∃ frame, event.2 = .ok frame) ∨ event.2 = .error .overrun ∧ config.capacity < 280 := by
  induction place, stream using grammar.induct config with
  | case1 => simp [grammar] at h
  | case2 place byte rest hstart ih =>
    rw [grammar_skip hstart] at h
    exact ih h
  | case3 place byte rest version hstart total hroom hend ih =>
    rw [grammar_frame ⟨byte, rest, rfl, hstart⟩ hroom hend, List.mem_cons] at h
    rcases h with rfl | h
    · exact .inl ⟨_, rfl⟩
    · exact ih h
  | case4 place byte rest version hstart total hroom hend =>
    rw [grammar_unfinished ⟨byte, rest, rfl, hstart⟩ (Nat.not_le.mp hend)
      (Nat.le_trans (Nat.le_of_lt (Nat.not_le.mp hend)) hroom)] at h
    cases h
  | case5 place byte rest version hstart total hover hlong ih =>
    rw [grammar_overrun ⟨byte, rest, rfl, hstart⟩ (Nat.not_le.mp hover)
      (Nat.lt_succ_of_le hlong), List.mem_cons] at h
    rcases h with rfl | h
    · exact .inr ⟨rfl, Nat.lt_of_lt_of_le (Nat.not_le.mp hover) (totalLength_le_maxLength _ _)⟩
    · exact ih h
  | case6 place byte rest version hstart total hover hshort =>
    rw [grammar_unfinished ⟨byte, rest, rfl, hstart⟩
      (Nat.lt_of_le_of_lt (Nat.not_le.mp hshort) (Nat.not_le.mp hover)) (Nat.not_le.mp hshort)] at h
    cases h

/-- **The receiver of frames reports what the grammar says**, for every room, every set of markers
and every stream.  No error but the want of room is ever reported, and none at all with room for the
longest frame. -/
theorem receiver_follows_grammar (config : Config) (place : Nat) (stream : List UInt8) :
    ((receiver config).run (receiver config).fresh place stream).2 = grammar config place stream ∧
      (∀ event ∈ ((receiver config).run (receiver config).fresh place stream).2,
        ∀ error, event.2 = .error error → error = .overrun) ∧
      (280 ≤ config.capacity →
        ∀ event ∈ ((receiver config).run (receiver config).fresh place stream).2,
          ∃ frame, event.2 = .ok frame) := by
  have hevents : ((receiver config).run (receiver config).fresh place stream).2
      = grammar config place stream := events_of_idle rfl place stream
  rw [hevents]
  refine ⟨rfl, fun event hevent error herror => ?_, fun hroom event hevent => ?_⟩
  · rcases grammar_error hevent with ⟨frame, hok⟩ | ⟨hoverrun, -⟩
    · rw [hok] at herror
      cases herror
    · rw [hoverrun] at herror
      exact (Except.error.inj herror).symm
  · rcases grammar_error hevent with hok | ⟨-, hsmall⟩
    · exact hok
    · omega

end VehicleLink.Frame
