import Mathlib.Data.List.Basic
import VehicleLink.Proofs.Receiver.Feed
import VehicleLink.Proofs.Sentence.Collecting

/-!
# Proofs/Sentence/Grammar — the receiver of sentences follows a grammar of streams

`grammar` says what a stream holds without any state: skip to a start character, and report the
first event of the bytes after it (`firstEvent`), which is settled by the body up to its star, the
four bytes behind it, and a cut at the commas.  It reads digits and cuts bodies by definitions of its
own (`digit?`, `cutText`).

The receiver reports exactly this (`receiver_follows_sentence_grammar`).  The engine is a
simulation (`Tracks`): in the middle of a sentence the receiver goes on as the grammar does from its
start character, whatever it held before, and one more byte keeps it so.
-/

namespace VehicleLink.Sentence

/-! ## The grammar -/

/-- The events of a stream with the places of their bytes, counted from `place`. -/
def grammar (config : Config) (place : Nat) (stream : List UInt8) :
    List (Nat × Event RawSentence) :=
  match stream with
  | [] => []
  | byte :: rest =>
    if byte ∈ config.starts then
      match firstEvent config rest with
      | some (taken, event) =>
        (place + taken, event) :: grammar config (place + taken + 1) (rest.drop taken)
      | none => []
    else grammar config (place + 1) rest
termination_by stream.length
decreasing_by
  · rw [List.length_drop, List.length_cons]
    omega
  · exact Nat.lt_succ_self _

section Equations

variable {config : Config} {byte : UInt8} {rest : List UInt8}

theorem grammar_nil (config : Config) (place : Nat) : grammar config place [] = [] := by
  rw [grammar]

/-- A byte that starts no sentence is skipped. -/
theorem grammar_skip (h : byte ∉ config.starts) (place : Nat) :
    grammar config place (byte :: rest) = grammar config (place + 1) rest := by
  rw [grammar, if_neg h]

/-- A sentence is taken up to its first event. -/
theorem grammar_event (h : byte ∈ config.starts) {taken : Nat} {event : Event RawSentence}
    (hfirst : firstEvent config rest = some (taken, event)) (place : Nat) :
    grammar config place (byte :: rest)
      = (place + taken, event) :: grammar config (place + taken + 1) (rest.drop taken) := by
  rw [grammar, if_pos h, hfirst]

/-- A sentence that the stream breaks off causes no event. -/
theorem grammar_unfinished (h : byte ∈ config.starts) (hfirst : firstEvent config rest = none)
    (place : Nat) : grammar config place (byte :: rest) = [] := by
  rw [grammar, if_pos h, hfirst]

end Equations

/-! ## The simulation -/

section Simulation

variable {config : Config} {r : Reception}

/-- A receiver tracks the grammar on a stream: between sentences from the next byte on, and in the
middle of a sentence from its start character on. -/
structure Tracks (config : Config) (stream : List UInt8) : Prop where
  idle : ∀ r : Reception, r.phase = .start → ∀ place,
    ((receiver config).run r place stream).2 = grammar config place stream
  collecting : ∀ r : Reception, Collecting config r → ∀ start ∈ config.starts, ∀ place,
    ((receiver config).run r (place + 1 + r.received.length) stream).2
      = grammar config place (start :: (r.received ++ stream))

namespace Tracks

variable {stream : List UInt8}

theorem nil (config : Config) : Tracks config [] where
  idle _ _ place := (grammar_nil config place).symm
  collecting r h start hstart place := by
    rw [List.append_nil, grammar_unfinished hstart h.firstEvent_received]
    rfl

/-- Between sentences a byte is skipped or starts a sentence. -/
theorem cons_idle (h : Tracks config stream) (byte : UInt8) (hidle : r.phase = .start)
    (place : Nat) :
    ((receiver config).run r place (byte :: stream)).2 = grammar config place (byte :: stream) := by
  by_cases hbyte : byte ∈ config.starts
  · have hstep : r.step config byte = (r.begin, .pending) := by
      rw [Reception.step, hidle]
      exact if_pos (List.contains_iff_mem.mpr hbyte)
    rw [(receiver config).events_cons hstep]
    exact h.collecting r.begin (.begin config r) byte hbyte place
  · have hstep : r.step config byte = (r, .pending) := by
      rw [Reception.step, hidle]
      exact if_neg (mt List.contains_iff_mem.mp hbyte)
    rw [(receiver config).events_cons hstep, grammar_skip hbyte]
    exact h.idle r hidle (place + 1)

/-- In the middle of a sentence a byte is received or causes its first event. -/
theorem cons_collecting (h : Tracks config stream) (byte : UInt8) (hr : Collecting config r)
    {start : UInt8} (hstart : start ∈ config.starts) (place : Nat) :
    ((receiver config).run r (place + 1 + r.received.length) (byte :: stream)).2
      = grammar config place (start :: (r.received ++ byte :: stream)) := by
  rcases hr.advances byte with
    ⟨next, hstep, hnext, hreceived⟩ | ⟨last, outcome, event, hstep, hidle, hevent, hfirst⟩
  · have hrest := h.collecting next hnext start hstart place
    rw [hreceived, List.length_append, List.append_assoc] at hrest
    rw [(receiver config).events_cons hstep]
    exact hrest
  · have hdrop : (r.received ++ byte :: stream).drop (r.received.length + 1) = stream := by
      rw [List.drop_length_add_append]
      rfl
    have hplace : place + 1 + r.received.length = place + (r.received.length + 1) := by omega
    rw [(receiver config).events_cons hstep, h.idle last hidle, hevent,
      grammar_event hstart (hfirst stream), hdrop, hplace]
    rfl

end Tracks

/-- **A receiver tracks the grammar on every stream.** -/
theorem tracks (config : Config) (stream : List UInt8) : Tracks config stream := by
  induction stream with
  | nil => exact .nil config
  | cons byte stream ih =>
    exact ⟨fun r hidle => ih.cons_idle byte hidle,
      fun r h start hstart => ih.cons_collecting byte h hstart⟩

/-- Between sentences the events to come do not depend on what the receiver held before. -/
theorem events_of_idle (hidle : r.phase = .start) (place : Nat) (stream : List UInt8) :
    ((receiver config).run r place stream).2 = grammar config place stream :=
  (tracks config stream).idle r hidle place

end Simulation

/-- **The receiver of sentences reports what the grammar says**, for every room, every set of start
characters and every stream. -/
theorem receiver_follows_sentence_grammar (config : Config) (place : Nat) (stream : List UInt8) :
    ((receiver config).run (receiver config).fresh place stream).2 = grammar config place stream :=
  events_of_idle rfl place stream

/-- A heading whose digits have a small letter, the same with a letter that is no digit and with
another digit, a header that is too short, a body that is no text, and a line with more fields than
are kept. -/
def assortedLines : List UInt8 :=
  utf8 "$GPHDT,90.0,T*0c\r\n$GPHDT,90.0,T*0g\r\n$GPHDT,90.0,T*0D\r\n$GP*17\r\n"
    ++ [0x24, 0xFF, 0x2A, 0x46, 0x46, 0x0D, 0x0A]
    ++ utf8 "$GPTXT" ++ (List.replicate 33 (utf8 ",1")).flatten ++ utf8 "*52\r\n"

/-- What the receiver reports for these lines, and so what the grammar says. -/
theorem receiver_follows_sentence_grammar_assortedLines :
    let config : Config := ⟨71, [0x24]⟩
    let events : List (Nat × Event RawSentence) :=
      [(17, .ok ⟨"GP", "HDT", ["90.0", "T"], by decide⟩), (35, .error .invalidChecksumDigit),
        (53, .error (.checksumMismatch 0x0C 0x0D)), (61, .ok ⟨"", "", [], by decide⟩),
        (68, .error .protocolViolation), (145, .ok ⟨"GP", "TXT", .replicate 32 "1", by decide⟩)]
    ((receiver config).run (receiver config).fresh 0 assortedLines).2 = events ∧
      grammar config 0 assortedLines = events := by
  intro config events
  have hrun : ((receiver config).run (receiver config).fresh 0 assortedLines).2 = events := by
    decide +kernel
  exact ⟨hrun, (receiver_follows_sentence_grammar config 0 assortedLines).symm.trans hrun⟩

end VehicleLink.Sentence
