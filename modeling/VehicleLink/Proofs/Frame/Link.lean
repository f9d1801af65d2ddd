import Mathlib.Data.List.Forall2
import VehicleLink.Message
import VehicleLink.Proofs.Frame.Canonical
import VehicleLink.Proofs.Frame.Grammar
import VehicleLink.Proofs.Receiver.Stream

/-!
# Proofs/Frame/Link — messages over a noisy link

A sender writes each record as a frame into a buffer of its own and puts the frame on the stream,
with noise around it that holds no marker.  The receiver reports each frame once, at its last byte,
and every one of them holds the record that was sent (`frames_delivered`).

The engine is the grammar: it skips the noise byte by byte and cuts the canonical frame of a record
in one go (`reports_frameBytes`).
-/

namespace VehicleLink

namespace Frame

/-- A record to be sent: the noise before it, who sends it, and the buffer it is written into. -/
structure Sending where
  noise : List UInt8
  type : MessageType
  record : type.Record
  origin : Origin
  buffer : List UInt8

namespace Sending

/-- What the writer answers, and the buffer it leaves. -/
def written (s : Sending) : Except LinkError Nat × List UInt8 :=
  s.type.write s.record s.origin s.buffer

/-- The part of the buffer that goes on the stream. -/
def sent (s : Sending) : List UInt8 :=
  match s.written with
  | (.ok length, buffer) => buffer.take length
  | (.error _, _) => []

/-- The noise and the frame. -/
def parcel (s : Sending) : Parcel := ⟨s.noise, s.sent⟩

/-- **What a frame tells about the record it was written for.** -/
structure Delivered (s : Sending) (frame : Frame) : Prop where
  version : frame.version = .v2
  messageId : frame.header.messageId = s.type.id
  systemId : frame.header.systemId = s.origin.systemId
  componentId : frame.header.componentId = s.origin.componentId
  sequence : frame.header.sequence = s.origin.sequence
  signature : frame.signature = none
  record : frame.verifiedRecord s.type = .ok s.record
  /-- A record of one of the catalogue's types is also found by its identifier. -/
  message : ∀ message : Message,
    (⟨message.kind.type, message.record⟩ : (type : MessageType) × type.Record)
      = ⟨s.type, s.record⟩ → Message.ofVerifiedFrame frame = .ok message

end Sending

end Frame

/-! ## One frame -/

theorem MessageKind.ofId?_id (kind : MessageKind) : ofId? kind.type.id = some kind := by
  cases kind <;> rfl

/-- The frame of a message is read back by its identifier. -/
theorem Message.ofVerifiedFrame_frame (message : Message) (origin : Origin) :
    ofVerifiedFrame (message.kind.type.frame message.record origin) = .ok message := by
  have hid : MessageKind.ofId? (message.kind.type.frame message.record origin).header.messageId
      = some message.kind := message.kind.ofId?_id
  rw [ofVerifiedFrame, hid]
  simp only [message.kind.type.verifiedRecord_frame]
  rfl

namespace Frame

namespace Sending

theorem written_eq {s : Sending} (h : maxFrameLength ≤ s.buffer.length) :
    s.written.1 = .ok (s.type.frameBytes s.record s.origin).length := by
  rw [written, s.type.write_eq s.record s.origin h]

theorem sent_eq {s : Sending} (h : maxFrameLength ≤ s.buffer.length) :
    s.sent = s.type.frameBytes s.record s.origin := by
  rw [sent, written, s.type.write_eq s.record s.origin h]
  exact take_overwrite_zero ..

theorem delivered_frame (s : Sending) : s.Delivered (s.type.frame s.record s.origin) where
  version := rfl
  messageId := rfl
  systemId := rfl
  componentId := rfl
  sequence := rfl
  signature := rfl
  record := s.type.verifiedRecord_frame s.record s.origin
  message := by
    obtain ⟨noise, type, record, origin, buffer⟩ := s
    intro message h
    obtain ⟨htype, hrecord⟩ := Sigma.mk.inj h
    subst htype
    rw [← eq_of_heq hrecord]
    exact message.ofVerifiedFrame_frame origin

end Sending

variable {config : Config}

/-- Whether some bytes hold no marker that the receiver takes. -/
def Quiet (config : Config) (bytes : List UInt8) : Prop :=
  ∀ byte ∈ bytes, startsVersion? config byte = none

instance (config : Config) (bytes : List UInt8) : Decidable (Quiet config bytes) :=
  List.decidableBAll _ _

theorem skips_of_quiet {bytes : List UInt8} (h : Quiet config bytes) :
    Parcel.Skips (grammar config) bytes :=
  Parcel.skips_of_forall _ fun byte hbyte place _ => grammar_skip (h byte hbyte) place

/-- The bytes of a whole frame that has room, and its event. -/
inductive Whole (config : Config) : List UInt8 → Event Frame → Prop where
  | frame {version : Version} {bytes : List UInt8} (hstarts : Starts config version bytes)
    (hlength : totalLength version bytes = bytes.length) (hroom : bytes.length ≤ config.capacity) :
    Whole config bytes (.ok (cut version bytes))

/-- **The grammar cuts a whole frame in one go**, whatever follows it. -/
theorem Whole.reports {item : List UInt8} {event : Event Frame} (h : Whole config item event) :
    Parcel.Reports (grammar config) item event := by
  obtain @⟨version, _, hstarts, hlength, hroom⟩ := h
  intro place rest
  have hmin := headerLength_le_totalLength version item
  have hannounced : version.announcedAt ≤ item.length :=
    Nat.le_trans version.announcedAt_le_headerLength (by omega)
  have htotal : totalLength version (item ++ rest) = item.length :=
    (totalLength_append hannounced rest).trans hlength
  have hstarts' : Starts config version (item ++ rest) := by
    obtain ⟨byte, tail, rfl, hbyte⟩ := hstarts
    exact ⟨byte, tail ++ rest, rfl, hbyte⟩
  rw [grammar_frame hstarts' (htotal ▸ hroom) (by rw [htotal, List.length_append]; omega), htotal,
    List.take_left, List.drop_left]

theorem reports_frameBytes (hmarker : 0xFD ∈ config.markers) (hroom : 280 ≤ config.capacity)
    (type : MessageType) (record : type.Record) (origin : Origin) :
    Parcel.Reports (grammar config) (type.frameBytes record origin)
      (.ok (type.frame record origin)) := by
  have htotal := type.totalLength_frameBytes record origin []
  rw [List.append_nil] at htotal
  have hfits : (type.frameBytes record origin).length ≤ config.capacity :=
    Nat.le_trans (htotal ▸ totalLength_le_maxLength _ _) hroom
  have hstarts : Starts config .v2 (type.frameBytes record origin) := ⟨_, _, rfl, if_pos hmarker⟩
  rw [← type.cut_frameBytes]
  exact (Whole.frame hstarts htotal hfits).reports

/-- **Every record that is sent arrives**, at the last byte of its frame, and nothing else does. -/
theorem frames_delivered {sendings : List Sending} {trailing : List UInt8}
    {chunks : List (List UInt8)} (hmarker : 0xFD ∈ config.markers) (hroom : 280 ≤ config.capacity)
    (hnoise : ∀ s ∈ sendings, Quiet config s.noise) (htrailing : Quiet config trailing)
    (hbuffer : ∀ s ∈ sendings, 280 ≤ s.buffer.length)
    (hchunks : chunks.flatten = Parcel.stream trailing (sendings.map Sending.parcel)) :
    (∀ s ∈ sendings, ∃ length, s.written.1 = .ok length) ∧
      ∃ frames, List.Forall₂ Sending.Delivered sendings frames ∧
        ((receiver config).feedChunks (receiver config).fresh 0 chunks).2
          = (Parcel.lastPlaces 0 (sendings.map Sending.parcel)).zip (frames.map Except.ok) := by
  have hparcels : ∀ s ∈ sendings, Parcel.Skips (grammar config) s.noise ∧
      Parcel.Reports (grammar config) s.sent (.ok (s.type.frame s.record s.origin)) := by
    intro s hs
    refine ⟨skips_of_quiet (hnoise s hs), ?_⟩
    rw [Sending.sent_eq (hbuffer s hs)]
    exact reports_frameBytes hmarker hroom s.type s.record s.origin
  refine ⟨fun s hs => ⟨_, Sending.written_eq (hbuffer s hs)⟩,
    sendings.map fun s => s.type.frame s.record s.origin, ?_, ?_⟩
  · rw [List.forall₂_map_right_iff, List.forall₂_same]
    exact fun s _ => s.delivered_frame
  · rw [Receiver.feedChunks_eq_run, hchunks, events_of_idle rfl, List.map_map]
    exact Parcel.events_stream _ (grammar_nil config) hparcels (skips_of_quiet htrailing) 0

/-- A heartbeat whose first field ends in zeros, behind a marker that the receiver does not take. -/
def noisyHeartbeat : Sending where
  noise := [0xFE, 0x00]
  type := .heartbeat
  record :=
    .cons (0xFD : UInt32) (.cons (2 : UInt8) (.cons (3 : UInt8) (.cons (0x51 : UInt8)
      (.cons (4 : UInt8) (.cons (0 : UInt8) .nil)))))
  origin := ⟨1, 200, 255⟩
  buffer := List.replicate 280 0xAA

/-- Two heartbeats and a line feed, fed in two chunks that cut the first of them apart. -/
theorem frames_delivered_noisyHeartbeat :
    (0xFD ∈ [(0xFD : UInt8)] ∧ Quiet ⟨280, [0xFD]⟩ noisyHeartbeat.noise ∧
        Quiet ⟨280, [0xFD]⟩ [0x0A] ∧ 280 ≤ noisyHeartbeat.buffer.length) ∧
      (∀ s ∈ List.replicate 2 noisyHeartbeat, ∃ length, s.written.1 = .ok length) ∧
      ∃ frames, List.Forall₂ Sending.Delivered (List.replicate 2 noisyHeartbeat) frames ∧
        ((receiver ⟨280, [0xFD]⟩).feedChunks (receiver ⟨280, [0xFD]⟩).fresh 0
            [(Parcel.stream [0x0A] (List.replicate 2 noisyHeartbeat.parcel)).take 5,
              (Parcel.stream [0x0A] (List.replicate 2 noisyHeartbeat.parcel)).drop 5]).2
          = (Parcel.lastPlaces 0 (List.replicate 2 noisyHeartbeat.parcel)).zip
              (frames.map Except.ok) := by
  have hmarker : 0xFD ∈ [(0xFD : UInt8)] := by decide
  have hnoise : Quiet ⟨280, [0xFD]⟩ noisyHeartbeat.noise := by decide
  have htrailing : Quiet ⟨280, [0xFD]⟩ [0x0A] := by decide
  have hbuffer : 280 ≤ noisyHeartbeat.buffer.length := Nat.le_of_eq List.length_replicate.symm
  refine ⟨⟨hmarker, hnoise, htrailing, hbuffer⟩,
    frames_delivered hmarker (Nat.le_refl 280) ?_ htrailing ?_ ?_⟩
  · intro s hs
    rwa [List.eq_of_mem_replicate hs]
  · intro s hs
    rwa [List.eq_of_mem_replicate hs]
  · rw [List.flatten_cons, List.flatten_singleton, List.take_append_drop]
    rfl

end Frame

end VehicleLink
