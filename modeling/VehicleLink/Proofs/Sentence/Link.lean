import Mathlib.Data.List.Forall2
import VehicleLink.Proofs.Bytes.Buffer
import VehicleLink.Proofs.Receiver.Stream
import VehicleLink.Proofs.Sentence.Binding
import VehicleLink.Proofs.Sentence.Grammar

/-!
# Proofs/Sentence/Link — sentences over a noisy link

A sender writes each sentence as a line into a buffer of its own and puts the line on the stream,
with noise around it that holds no start character.  The receiver reports each line once, at its
line feed, cut into the texts of its columns; binding and reading them gives the columns back
(`sentences_delivered`).

The engine is the grammar again: no column is rendered with a delimiter, so the body runs up to the
star, and its pieces are the header and the columns (`reports_fullBytes`).
-/

namespace VehicleLink

/-! ## Bytes without delimiters -/

namespace Sentence

theorem isBody_of_plain {text : String} (h : Plain text) : ∀ byte ∈ utf8 text, isBody byte := by
  intro byte hbyte
  rw [isBody, Bool.and_eq_true, decide_eq_true_eq, decide_eq_true_eq]
  constructor
  · rintro rfl
    exact (h '*' ((mem_utf8_iff (by decide)).mp hbyte)).2.1 rfl
  · rintro rfl
    exact (h '\n' ((mem_utf8_iff (by decide)).mp hbyte)).2.2 rfl

theorem comma_not_mem_of_plain {text : String} (h : Plain text) : ',' ∉ text.toList :=
  fun hmem => (h ',' hmem).1 rfl

/-! ## What is sent, and what arrives -/

/-- A sentence to be sent: the noise before it, who sends it, and the buffer it is written into. -/
structure Sending where
  noise : List UInt8
  kind : SentenceKind
  sentence : kind.type.Sentence
  talker : String
  buffer : List UInt8

/-- Whether some bytes hold no start character. -/
def Quiet (config : Config) (bytes : List UInt8) : Prop := ∀ byte ∈ bytes, byte ∉ config.starts

instance (config : Config) (bytes : List UInt8) : Decidable (Quiet config bytes) :=
  List.decidableBAll _ _

/-- The bytes of a whole sentence that has room, and its event. -/
inductive Whole (config : Config) : List UInt8 → Event RawSentence → Prop where
  | sentence {start : UInt8} {body : List UInt8} (hstart : start ∈ config.starts)
    (hbody : ∀ byte ∈ body, isBody byte) (hroom : body.length ≤ config.capacity)
    (high low : UInt8) :
    Whole config (start :: body ++ [0x2A, high, low, 0x0D, 0x0A]) (verdict body high low)

/-- **The grammar cuts a whole sentence in one go**, whatever follows it. -/
theorem Whole.reports {config : Config} {item : List UInt8} {event : Event RawSentence}
    (h : Whole config item event) : Parcel.Reports (grammar config) item event := by
  obtain @⟨start, body, hstart, hbody, hroom, high, low⟩ := h
  intro place rest
  have hfirst : firstEvent config (body ++ 0x2A :: high :: low :: 0x0D :: 0x0A :: rest)
      = some (body.length + 5, verdict body high low) := by
    rw [firstEvent_star hbody hroom, ending_lineFeed, if_pos rfl]
    rfl
  have hdrop : (body ++ 0x2A :: high :: low :: 0x0D :: 0x0A :: rest).drop (body.length + 5)
      = rest := by
    rw [List.drop_length_add_append]
    rfl
  have hline : (start :: body ++ [0x2A, high, low, 0x0D, 0x0A]) ++ rest
      = start :: (body ++ 0x2A :: high :: low :: 0x0D :: 0x0A :: rest) := by
    rw [List.append_assoc]
    rfl
  have hlength : (start :: body ++ [0x2A, high, low, 0x0D, 0x0A]).length = body.length + 6 := by
    rw [List.length_append]
    rfl
  rw [hline, grammar_event hstart hfirst, hdrop, hlength]
  rfl

namespace Sending

/-- How many bytes the writer wrote, and the buffer it leaves. -/
def written (s : Sending) : Nat × List UInt8 := s.kind.type.write s.talker s.sentence s.buffer

/-- The part of the buffer that goes on the stream. -/
def sent (s : Sending) : List UInt8 := s.written.2.take s.written.1

/-- The noise and the line. -/
def parcel (s : Sending) : Parcel := ⟨s.noise, s.sent⟩

/-- What a sentence needs to get through: a talker of two bytes, columns that can be sent, and room
for the body at the receiver and for the line in the buffer. -/
structure Sendable (config : Config) (s : Sending) : Prop where
  noise : Quiet config s.noise
  length_talker : (utf8 s.talker).length = 2
  talker : Plain s.talker
  columns : ∀ column (slot : Slot column s.kind.type.columns),
    column.Sendable (s.sentence.get slot)
  body : (s.kind.type.bodyBytes s.talker s.sentence).length ≤ config.capacity
  buffer : (s.kind.type.bodyBytes s.talker s.sentence).length + 6 ≤ s.buffer.length

instance (config : Config) (s : Sending) : Decidable (s.Sendable config) :=
  decidable_of_iff (Quiet config s.noise ∧ (utf8 s.talker).length = 2 ∧ Plain s.talker ∧
      (∀ column (slot : Slot column s.kind.type.columns), column.Sendable (s.sentence.get slot)) ∧
      (s.kind.type.bodyBytes s.talker s.sentence).length ≤ config.capacity ∧
      (s.kind.type.bodyBytes s.talker s.sentence).length + 6 ≤ s.buffer.length)
    ⟨fun ⟨noise, length_talker, talker, columns, body, buffer⟩ =>
      ⟨noise, length_talker, talker, columns, body, buffer⟩,
    fun h => ⟨h.noise, h.length_talker, h.talker, h.columns, h.body, h.buffer⟩⟩

/-- **What a received sentence tells about the one it was written for.** -/
structure Delivered (s : Sending) (raw : RawSentence) : Prop where
  talker : raw.talker = s.talker
  id : raw.id = s.kind.type.id
  length_fields : raw.fields.length = s.kind.type.fieldCount
  fields : raw.fields = SentenceType.texts s.sentence
  bound : UnparsedSentence.ofRaw? raw = some ⟨s.kind, s.kind.type.bind raw⟩
  parsed : ∃ got, s.kind.type.parse (s.kind.type.bind raw) = .ok got ∧
    ∀ column (slot : Slot column s.kind.type.columns),
      column.Keeps (s.sentence.get slot) (got.get slot)

end Sending

/-! ## One line -/

namespace Sending

variable {config : Config} {s : Sending}

/-- The body as a text: the header and the texts of the columns. -/
def bodyText (s : Sending) : String :=
  commaJoin ((s.talker ++ s.kind.type.id) :: SentenceType.texts s.sentence)

theorem utf8_bodyText (s : Sending) :
    utf8 s.bodyText = s.kind.type.bodyBytes s.talker s.sentence :=
  SentenceType.utf8_bodyText s.kind.columns_ne_nil

theorem length_fullBytes (s : Sending) :
    (s.kind.type.fullBytes s.talker s.sentence).length
      = (s.kind.type.bodyBytes s.talker s.sentence).length + 6 := by
  rw [SentenceType.fullBytes, List.length_append, List.length_cons]
  rfl

theorem Sendable.sent_eq (h : s.Sendable config) :
    s.sent = s.kind.type.fullBytes s.talker s.sentence := by
  have hbytes : s.kind.type.bytes s.talker s.sentence s.buffer.length
      = s.kind.type.fullBytes s.talker s.sentence := by
    rw [SentenceType.bytes_eq_take, List.take_of_length_le]
    rw [length_fullBytes]
    exact h.buffer
  rw [sent, written, SentenceType.write, hbytes, take_overwrite_zero]

/-- Every part of the body is free of delimiters. -/
theorem Sendable.plain (h : s.Sendable config) :
    ∀ part ∈ (s.talker ++ s.kind.type.id) :: SentenceType.texts s.sentence, Plain part := by
  intro part hpart
  rcases List.mem_cons.mp hpart with rfl | htext
  · intro c hc
    rw [String.toList_append] at hc
    rcases List.mem_append.mp hc with htalker | hid
    · exact h.talker c htalker
    · exact s.kind.plain_id c hid
  · exact SentenceType.plain_of_mem_texts s.sentence h.columns part htext

theorem Sendable.isBody (h : s.Sendable config) :
    ∀ byte ∈ s.kind.type.bodyBytes s.talker s.sentence, Sentence.isBody byte := by
  intro byte hbyte
  rw [← utf8_bodyText, bodyText, utf8_commaJoin] at hbyte
  rcases mem_intercalate_comma hbyte with rfl | ⟨piece, hpiece, hbyte⟩
  · rfl
  · obtain ⟨part, hpart, rfl⟩ := List.mem_map.mp hpiece
    exact isBody_of_plain (h.plain part hpart) byte hbyte

theorem Sendable.cutText_bodyText (h : s.Sendable config) :
    cutText s.bodyText = .ofFields s.talker s.kind.type.id (SentenceType.texts s.sentence) := by
  have hpieces : commaPieces s.bodyText
      = (s.talker ++ s.kind.type.id) :: SentenceType.texts s.sentence :=
    commaPieces_commaJoin (List.cons_ne_nil _ _)
      fun part hpart => comma_not_mem_of_plain (h.plain part hpart)
  rw [cutText_eq_ofFields, hpieces, List.headD_cons, List.tail_cons,
    cutHeader_append h.length_talker s.kind.length_utf8_id]

/-- The sentence that a line is cut into. -/
def raw (s : Sending) : RawSentence :=
  .ofFields s.talker s.kind.type.id (SentenceType.texts s.sentence)

theorem fields_raw (s : Sending) : s.raw.fields = SentenceType.texts s.sentence :=
  SentenceKind.fields_ofFields_texts s.sentence s.talker s.kind.type.id

theorem Sendable.delivered_raw (h : s.Sendable config) : s.Delivered s.raw where
  talker := rfl
  id := rfl
  length_fields := by
    rw [fields_raw, SentenceType.texts, Row.length_toList]
    rfl
  fields := s.fields_raw
  bound := UnparsedSentence.ofRaw?_eq_some_iff.mpr rfl
  parsed := by
    have hbind : s.kind.type.bind s.raw
        = bindTokens s.kind.type.columns (SentenceType.texts s.sentence) := by
      rw [SentenceType.bind, fields_raw]
    rw [hbind]
    exact s.kind.type.parse_bind_texts s.kind.isWide s.sentence h.columns

theorem Sendable.reports_fullBytes (h : s.Sendable config) (hstart : 0x24 ∈ config.starts) :
    Parcel.Reports (grammar config) (s.kind.type.fullBytes s.talker s.sentence) (.ok s.raw) := by
  have htext : text? (s.kind.type.bodyBytes s.talker s.sentence) = some s.bodyText := by
    rw [← utf8_bodyText, text?_utf8]
  have hwhole := Whole.sentence hstart h.isBody h.body
    (Checksum.digits (Checksum.ofBytes (s.kind.type.bodyBytes s.talker s.sentence))).1
    (Checksum.digits (Checksum.ofBytes (s.kind.type.bodyBytes s.talker s.sentence))).2
  rw [verdict_digits, htext] at hwhole
  change Whole config _ (.ok (cutText s.bodyText)) at hwhole
  rw [h.cutText_bodyText] at hwhole
  exact hwhole.reports

end Sending

theorem skips_of_quiet {config : Config} {bytes : List UInt8} (h : Quiet config bytes) :
    Parcel.Skips (grammar config) bytes :=
  Parcel.skips_of_forall _ fun byte hbyte place _ => grammar_skip (h byte hbyte) place

/-- **Every sentence that is sent arrives**, at its line feed, and nothing else does. -/
theorem sentences_delivered {config : Config} {sendings : List Sending} {trailing : List UInt8}
    {chunks : List (List UInt8)} (hstart : 0x24 ∈ config.starts)
    (hsendings : ∀ s ∈ sendings, s.Sendable config) (htrailing : Quiet config trailing)
    (hchunks : chunks.flatten = Parcel.stream trailing (sendings.map Sending.parcel)) :
    (∀ s ∈ sendings, s.sent = s.kind.type.fullBytes s.talker s.sentence) ∧
      ∃ raws, List.Forall₂ Sending.Delivered sendings raws ∧
        ((receiver config).feedChunks (receiver config).fresh 0 chunks).2
          = (Parcel.lastPlaces 0 (sendings.map Sending.parcel)).zip (raws.map Except.ok) := by
  have hparcels : ∀ s ∈ sendings, Parcel.Skips (grammar config) s.noise ∧
      Parcel.Reports (grammar config) s.sent (.ok s.raw) := by
    intro s hs
    have h := hsendings s hs
    refine ⟨skips_of_quiet h.noise, ?_⟩
    rw [h.sent_eq]
    exact h.reports_fullBytes hstart
  refine ⟨fun s hs => (hsendings s hs).sent_eq, sendings.map Sending.raw, ?_, ?_⟩
  · rw [List.forall₂_map_right_iff, List.forall₂_same]
    exact fun s hs => (hsendings s hs).delivered_raw
  · rw [Receiver.feedChunks_eq_run, hchunks, events_of_idle rfl, List.map_map]
    exact Parcel.events_stream _ (grammar_nil config) hparcels (skips_of_quiet htrailing) 0

/-- A fix with a column of every kind that has values, and with absent columns in between; the
noise before it has a frame marker and a line feed. -/
def southernFix : Sending where
  noise := [0xFD, 0x0A]
  kind := .gns
  sentence :=
    .cons none (.cons none (.cons (some Direction.south) (.cons none (.cons none
      (.cons (some (PaddedText.ofText 8 "AD"))
        (.cons (some (⟨7, by decide⟩ : IntegerType.int32.Value))
          (.cons (some (⟨0x41200000⟩ : Binary .single))
            (.cons none (.cons none (.cons none (.cons none (.cons none .nil))))))))))))
  talker := "GN"
  buffer := List.replicate 40 0xAA

/-- Two fixes and a line feed, fed in two chunks that cut the first of them apart. -/
theorem sentences_delivered_southernFix :
    (0x24 ∈ [(0x24 : UInt8)] ∧ southernFix.Sendable ⟨40, [0x24]⟩ ∧ Quiet ⟨40, [0x24]⟩ [0x0A]) ∧
      (∀ s ∈ List.replicate 2 southernFix, s.sent = s.kind.type.fullBytes s.talker s.sentence) ∧
      ∃ raws, List.Forall₂ Sending.Delivered (List.replicate 2 southernFix) raws ∧
        ((receiver ⟨40, [0x24]⟩).feedChunks (receiver ⟨40, [0x24]⟩).fresh 0
            [(Parcel.stream [0x0A] (List.replicate 2 southernFix.parcel)).take 5,
              (Parcel.stream [0x0A] (List.replicate 2 southernFix.parcel)).drop 5]).2
          = (Parcel.lastPlaces 0 (List.replicate 2 southernFix.parcel)).zip
              (raws.map Except.ok) := by
  have hstart : 0x24 ∈ [(0x24 : UInt8)] := List.mem_singleton_self _
  have hsendable : southernFix.Sendable ⟨40, [0x24]⟩ := by decide +kernel
  have htrailing : Quiet ⟨40, [0x24]⟩ [0x0A] := by decide
  refine ⟨⟨hstart, hsendable, htrailing⟩, sentences_delivered hstart ?_ htrailing ?_⟩
  · intro s hs
    rwa [List.eq_of_mem_replicate hs]
  · rw [List.flatten_cons, List.flatten_singleton, List.take_append_drop]
    rfl

end Sentence

end VehicleLink
