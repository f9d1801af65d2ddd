import Mathlib.Data.List.Infix
import VehicleLink.Proofs.Receiver.Recording
import VehicleLink.Proofs.Sentence.Collecting
import VehicleLink.Proofs.Sentence.Storage
import VehicleLink.Proofs.Text.Places

/-!
# Proofs/Sentence/Representation — what the storage of a receiver stands for at any time

In the middle of a sentence the cells in use hold what has come since the start character, up to the
star, and the header end and the field ranges are the places that the commas in it give
(`Stored.HoldsPart`).  This is so after any pushes and resets
(`storage_holds_sentence_part`).

The places are counted in bytes, and the sentence is cut at them as a text.  A comma is a character of
its own, so every cut falls between two characters (`Stored.CutsWhole`), and no field is dropped for
want of one.
-/

namespace VehicleLink.Sentence

/-! ## The places, from the commas -/

namespace Reception

/-- The places where the header and the fields have been ended so far: at the commas, and at the
star. -/
def endings (r : Reception) : List Nat :=
  commaPlaces r.body ++ if r.phase = .fields then [] else [r.body.length]

theorem mem_ended_iff (r : Reception) : 0x2A ∈ r.ended ↔ r.phase ≠ .start ∧ r.phase ≠ .fields := by
  cases hphase : r.phase <;> simp [ended, hphase]

end Reception

namespace Collecting

variable {config : Config} {r : Reception} (h : Collecting config r)

include h

theorem mem_received_iff : 0x2A ∈ r.received ↔ r.phase ≠ .fields := by
  have hbody : (0x2A : UInt8) ∉ r.body := fun hmem => by
    have hplain := h.plain 0x2A hmem
    cases hplain
  rw [Reception.received, List.mem_append, r.mem_ended_iff]
  simp only [hbody, h.phase_ne_start, ne_eq, not_false_eq_true, false_or, true_and]

/-- What came before the star. -/
theorem takeWhile_received : r.received.takeWhile (· ≠ 0x2A) = r.body := by
  have hbody : ∀ byte ∈ r.body, decide (byte ≠ 0x2A) := fun byte hmem => by
    have hplain := h.plain byte hmem
    rw [isBody, Bool.and_eq_true] at hplain
    exact hplain.1
  rw [Reception.received, List.takeWhile_append_of_pos hbody]
  cases hphase : r.phase <;> simp [Reception.ended, hphase]

/-- **The places kept are those of some of the first pieces**, which end where pieces have been
ended. -/
theorem exists_closed : ∃ closed, r.Marks closed ∧ closed <+: commaPiecesOf r.body ∧
    (spans 0 closed).map Prod.snd = r.endings := by
  have hends := map_snd_spans r.body
  rw [Reception.endings]
  by_cases hphase : r.phase = .fields
  · have hplaced := h.placed
    rw [Reception.Placed, hphase] at hplaced
    obtain ⟨closed, last, hsplit, -, hmarks⟩ := hplaced
    refine ⟨closed, hmarks, ⟨[last], hsplit.symm⟩, ?_⟩
    rw [hsplit, spans_append, List.map_append] at hends
    rw [if_pos hphase, List.append_nil]
    exact (List.append_singleton_inj.mp hends).1
  · rw [if_neg hphase]
    exact ⟨_, h.marks hphase, List.prefix_rfl, hends⟩

theorem headerEnd_eq : r.headerEnd = r.endings.head? := by
  obtain ⟨closed, hmarks, -, hends⟩ := h.exists_closed
  rw [hmarks.headerEnd, ← hends, List.head?_map]

/-- **The header is open until the first comma or star.** -/
theorem headerEnd_eq_none_iff : r.headerEnd = none ↔ 0x2C ∉ r.received ∧ 0x2A ∉ r.received := by
  rw [h.headerEnd_eq, List.head?_eq_none_iff, Reception.endings, List.append_eq_nil_iff,
    commaPlaces_eq_nil_iff, h.mem_received_iff, Decidable.not_not]
  by_cases hphase : r.phase = .fields
  · rw [received_of_fields hphase, if_pos hphase]
    simp only [hphase]
  · rw [if_neg hphase]
    simp only [hphase, List.cons_ne_nil, and_false]

theorem headerEnd_eq_some {place : Nat} (hheader : r.headerEnd = some place) :
    place = r.body.idxOf 0x2C := by
  have hfirst := head?_ends r.body
  rw [h.headerEnd_eq, Reception.endings] at hheader
  split at hheader
  · rw [List.append_nil] at hheader
    rw [List.head?_append, hheader] at hfirst
    exact Option.some.inj hfirst
  · exact Option.some.inj (hheader.symm.trans hfirst)

theorem ranges_prefix : r.ranges <+: (spans 0 (commaPiecesOf r.body)).tail := by
  obtain ⟨closed, hmarks, ⟨rest, hpieces⟩, -⟩ := h.exists_closed
  rw [hmarks.ranges, ← hpieces, spans_append, ← List.drop_one, ← List.drop_one]
  exact (List.take_prefix ..).trans (List.IsPrefix.drop (List.prefix_append ..) 1)

theorem length_ranges : r.ranges.length
    = min maxFields (r.body.count 0x2C - if r.phase = .fields then 1 else 0) := by
  obtain ⟨closed, hmarks, -, hends⟩ := h.exists_closed
  have hcount := congrArg List.length hends
  rw [List.length_map, Reception.endings, List.length_append, length_commaPlaces] at hcount
  rw [hmarks.ranges, List.length_take, List.length_tail, hcount]
  split
  · rfl
  · rfl

/-- **A field lies between a comma and the next one**, or the end of the body. -/
theorem getElem?_ranges {k : Nat} {range : Nat × Nat} (hk : r.ranges[k]? = some range) :
    ∃ opening closing, (commaPlaces r.body)[k]? = some opening ∧
      (commaPlaces r.body ++ [r.body.length])[k + 1]? = some closing ∧
      range = (opening + 1, closing) := by
  obtain ⟨hlt, rfl⟩ := List.getElem?_eq_some_iff.mp hk
  have hspan := List.prefix_iff_getElem?.mp h.ranges_prefix k hlt
  rw [List.getElem?_tail] at hspan
  obtain ⟨before, hbefore, hfirst⟩ := exists_getElem?_of_succ hspan
  have hopening := congrArg (Option.map Prod.snd) hbefore
  have hclosing := congrArg (Option.map Prod.snd) hspan
  rw [← List.getElem?_map, map_snd_spans] at hopening hclosing
  -- It has a piece behind it, so it is not the end of the body.
  have hcomma : k < (commaPlaces r.body).length := by
    have hbehind := (List.getElem?_eq_some_iff.mp hclosing).1
    rw [List.length_append, List.length_singleton] at hbehind
    exact Nat.lt_of_succ_lt_succ hbehind
  rw [List.getElem?_append_left hcomma] at hopening
  exact ⟨before.2, _, hopening, hclosing, Prod.ext hfirst rfl⟩

theorem mem_spans_of_mem_ranges {range : Nat × Nat} (hmem : range ∈ r.ranges) :
    range ∈ spans 0 (commaPiecesOf r.body) :=
  List.mem_of_mem_tail (h.ranges_prefix.mem hmem)

theorem range_bounds {range : Nat × Nat} (hmem : range ∈ r.ranges) :
    range.1 ≤ range.2 ∧ range.2 ≤ r.body.length := by
  have hspan := h.mem_spans_of_mem_ranges hmem
  exact ⟨(spans_bounds hspan).2, le_length_of_mem_ends (mem_ends_of_mem_spans hspan)⟩

theorem not_mem_slice {range : Nat × Nat} (hmem : range ∈ r.ranges) :
    (0x2C : UInt8) ∉ (r.body.take range.2).drop range.1 := by
  have hslice := List.mem_map_of_mem (f := fun range => (r.body.take range.2).drop range.1)
    (h.mem_spans_of_mem_ranges hmem)
  rw [map_slice_spans] at hslice
  exact not_mem_of_mem_splitOn hslice

theorem pairwise_ranges : r.ranges.Pairwise fun a b => a.2 < b.1 :=
  (spans_pairwise 0 (commaPiecesOf r.body)).sublist
    (h.ranges_prefix.sublist.trans (List.tail_sublist _))

theorem mem_spans_of_headerEnd {place : Nat} (hheader : r.headerEnd = some place) :
    (0, place) ∈ spans 0 (commaPiecesOf r.body) := by
  obtain ⟨closed, hmarks, ⟨rest, hpieces⟩, -⟩ := h.exists_closed
  rw [hmarks.headerEnd] at hheader
  cases closed with
  | nil => cases hheader
  | cons piece closed =>
    obtain rfl : 0 + piece.length = place := Option.some.inj hheader
    rw [← hpieces]
    exact List.mem_cons_self

end Collecting

/-! ## The cuts, between characters -/

/-- **Each piece of a text is cut out of its bytes as a text.** -/
theorem exists_slice_eq {text : String} {range : Nat × Nat}
    (h : range ∈ spans 0 (commaPiecesOf (utf8 text))) :
    ∃ piece, Reception.slice? (utf8 text) range.1 range.2 = some piece := by
  have hslices : (spans 0 (commaPiecesOf (utf8 text))).map
      (fun range => Reception.slice? (utf8 text) range.1 range.2)
        = (commaPiecesOf (utf8 text)).map text? := by
    refine map_spans fun before piece after hbytes => ?_
    rw [← hbytes]
    exact Reception.slice?_append before piece after
  have hmem :=
    List.mem_map_of_mem (f := fun range => Reception.slice? (utf8 text) range.1 range.2) h
  rw [hslices, commaPiecesOf_utf8, List.map_map] at hmem
  obtain ⟨piece, -, hpiece⟩ := List.mem_map.mp hmem
  exact ⟨piece, hpiece.symm.trans (text?_utf8 piece)⟩

namespace Collecting

variable {config : Config} {r : Reception} (h : Collecting config r) {text : String}
  (htext : utf8 text = r.body)

include h htext

theorem header_whole (hstar : r.phase ≠ .fields) : ∃ place header, r.headerEnd = some place ∧
    isBoundary r.body place ∧ Reception.slice? r.body 0 place = some header := by
  cases hheader : r.headerEnd with
  | none => exact absurd (h.mem_received_iff.mpr hstar) (h.headerEnd_eq_none_iff.mp hheader).2
  | some place =>
    have hspan := h.mem_spans_of_headerEnd hheader
    have hbound := isBoundary_of_mem_ends (mem_ends_of_mem_spans hspan)
    rw [← htext] at hspan
    obtain ⟨header, hslice⟩ := exists_slice_eq hspan
    rw [htext] at hslice
    exact ⟨place, header, rfl, hbound, hslice⟩

theorem field_whole {range : Nat × Nat} (hmem : range ∈ r.ranges) :
    isBoundary r.body range.1 ∧ isBoundary r.body range.2 ∧
      ∃ field, Reception.slice? r.body range.1 range.2 = some field := by
  have hspan := h.mem_spans_of_mem_ranges hmem
  obtain ⟨k, hk⟩ := List.mem_iff_getElem?.mp hmem
  obtain ⟨opening, closing, hopening, -, rfl⟩ := h.getElem?_ranges hk
  have hcomma := mem_commaPlaces_iff.mp (List.mem_of_getElem? hopening)
  refine ⟨?_, isBoundary_of_mem_ends (mem_ends_of_mem_spans hspan), ?_⟩ <;>
    rw [← htext] at hcomma hspan ⊢
  · exact isBoundary_succ_of_comma hcomma
  · exact exists_slice_eq hspan

end Collecting

/-! ## One byte -/

namespace Reception

variable {config : Config} {r : Reception} {history : List UInt8}

/-- The invariant of a reception and the bytes that led to it: in the middle of a sentence they end
with those received since a start character. -/
def Recorded (config : Config) (r : Reception) (history : List UInt8) : Prop :=
  r.phase ≠ .start → Collecting config r ∧
    ∃ before start, start ∈ config.starts ∧ history = before ++ start :: r.received

/-- **A byte keeps the invariant**, and joins the history. -/
theorem Recorded.step (h : r.Recorded config history) (byte : UInt8) :
    (r.step config byte).1.Recorded config (history ++ [byte]) := by
  by_cases hidle : r.phase = .start
  · rw [Reception.step, hidle]
    dsimp only
    split
    · next hstart =>
      exact fun _ => ⟨.begin config r, history, byte, List.contains_iff_mem.mp hstart, rfl⟩
    · exact fun hphase => absurd hidle hphase
  · obtain ⟨hr, before, start, hstart, rfl⟩ := h hidle
    rcases hr.advances byte with
      ⟨next, hstep, hnext, hreceived⟩ | ⟨last, outcome, event, hstep, hlast, -⟩
    · rw [hstep]
      refine fun _ => ⟨hnext, before, start, hstart, ?_⟩
      rw [hreceived, List.append_assoc, List.cons_append]
    · rw [hstep]
      exact fun hphase => absurd hlast hphase

end Reception

/-! ## The storage -/

namespace Stored

variable {config : Config} {s : Stored config.capacity} {history since : List UInt8}

/-- What the storage holds in the middle of a sentence, after these bytes since the start
character. -/
structure HoldsPart (config : Config) (s : Stored config.capacity) (since : List UInt8) : Prop where
  filled_le : s.store.filled ≤ config.capacity
  fields_le : s.table.filled ≤ maxFields
  /-- The cells in use hold what came before the star, which only the first phase has not seen. -/
  body : s.store.contents = since.takeWhile (· ≠ 0x2A)
  starred : 0x2A ∈ since ↔ s.phase ≠ .fields
  received : since = s.store.contents ++ s.reception.ended
  checksum : s.checksum = s.store.contents.foldl (· ^^^ ·) 0
  /-- The header ends at the first comma or star, once there has been one. -/
  header_open : s.headerEnd = none ↔ 0x2C ∉ since ∧ 0x2A ∉ since
  header_closed : ∀ place, s.headerEnd = some place → place = s.store.contents.idxOf 0x2C
  /-- A field lies between a comma and the next one, or the end of the body. -/
  field : ∀ k range, s.table.contents[k]? = some range → ∃ opening closing,
    (commaPlaces s.store.contents)[k]? = some opening ∧
      (commaPlaces s.store.contents ++ [s.store.filled])[k + 1]? = some closing ∧
      range = (opening + 1, closing)
  bounds : ∀ range ∈ s.table.contents, range.1 ≤ range.2 ∧ range.2 ≤ s.store.filled
  plain : ∀ range ∈ s.table.contents,
    (0x2C : UInt8) ∉ (s.store.contents.take range.2).drop range.1
  increasing : s.table.contents.Pairwise fun a b => a.2 < b.1
  /-- No field that has been closed is missing, as long as there is room for it. -/
  fields : s.table.filled
    = min maxFields (s.store.contents.count 0x2C - if s.phase = .fields then 1 else 0)

/-- Whether the header and all fields are cut out of a body between two characters. -/
structure CutsWhole {capacity : Nat} (s : Stored capacity) : Prop where
  header : ∃ place talkerId, s.headerEnd = some place ∧ isBoundary s.store.contents place ∧
    Reception.slice? s.store.contents 0 place = some talkerId
  field : ∀ range ∈ s.table.contents, isBoundary s.store.contents range.1 ∧
    isBoundary s.store.contents range.2 ∧
    ∃ token, Reception.slice? s.store.contents range.1 range.2 = some token

/-- What the storage stands for at any time, after all the bytes of the history. -/
structure Represents (config : Config) (s : Stored config.capacity) (history : List UInt8) :
    Prop where
  /-- In the middle of a sentence the history ends with the bytes since a start character. -/
  part : s.phase ≠ .start → ∃ before start since, start ∈ config.starts ∧
    history = before ++ start :: since ∧ s.HoldsPart config since
  /-- When a sentence is complete and its body is a text, nothing is cut in the middle of a
  character. -/
  whole : ∀ byte text, (s.step config byte).2 = .complete →
    text? (s.step config byte).1.store.contents = some text → (s.step config byte).1.CutsWhole

/-- **Every reachable state has the invariant.** -/
theorem recorded (h : (storedReceiver config).recording.Reachable (s, history)) :
    s.reception.Recorded config history := by
  have hstep {s : Stored config.capacity} {history : List UInt8}
      (hstate : s.reception.Recorded config history) (byte : UInt8) :
      (s.step config byte).1.reception.Recorded config (history ++ [byte]) := by
    have hnext := hstate.step byte
    rwa [s.step_reception byte] at hnext
  exact (storedReceiver config).recording_keeps
    (P := fun s history => s.reception.Recorded config history) hstep
    (fun hphase => absurd rfl hphase) (fun _ hphase => absurd rfl hphase) h

theorem holdsPart (h : Collecting config s.reception) :
    s.HoldsPart config s.reception.received := by
  have hlength : s.store.contents.length = s.store.filled := s.store.length_contents
  have hfields : s.table.contents.length = s.table.filled := s.table.length_contents
  exact
    { filled_le := s.store.filled_le
      fields_le := s.table.filled_le
      body := h.takeWhile_received.symm
      starred := h.mem_received_iff
      received := rfl
      checksum := h.checksum
      header_open := h.headerEnd_eq_none_iff
      header_closed := fun _ => h.headerEnd_eq_some
      field := by
        rw [← hlength]
        exact fun _ _ => h.getElem?_ranges
      bounds := by
        rw [← hlength]
        exact fun _ => h.range_bounds
      plain := fun _ => h.not_mem_slice
      increasing := h.pairwise_ranges
      fields := by
        rw [← hfields]
        exact h.length_ranges }

theorem validate_eq_of_complete (h : s.validate.2 = .complete) : s.validate.1 = s.reset := by
  rw [validate] at h ⊢
  cases hsum : Checksum.ofDigits s.digits with
  | error error =>
    simp only [hsum] at h
    cases h
  | ok sum =>
    simp only [hsum] at h ⊢
    split at h
    · next heq => rw [if_pos heq]
    · cases h

/-- Only the line feed completes a sentence, and leaves all but the phase as it was. -/
theorem eq_reset_of_complete {byte : UInt8} (h : (s.step config byte).2 = .complete) :
    s.phase = .lineFeed ∧ (s.step config byte).1 = s.reset := by
  have happend (s : Stored config.capacity) : (s.append byte).2 ≠ .complete := by
    rw [append]
    split <;> (intro heq; cases heq)
  rw [step] at h ⊢
  cases hphase : s.phase with
  | start =>
    simp only [hphase] at h
    split at h <;> cases h
  | fields =>
    simp only [hphase] at h
    split at h
    · cases h
    split at h
    · cases h
    split at h
    · exact absurd h (happend _)
    · exact absurd h (happend _)
  | firstDigit | secondDigit =>
    simp only [hphase] at h
    cases h
  | carriageReturn =>
    simp only [hphase] at h
    split at h <;> cases h
  | lineFeed =>
    simp only [hphase] at h
    refine ⟨rfl, ?_⟩
    split at h
    · next hbyte =>
      simp only [if_pos hbyte]
      exact validate_eq_of_complete h
    · cases h

theorem cutsWhole (h : Collecting config s.reception) (hstar : s.phase ≠ .fields) {text : String}
    (htext : utf8 text = s.store.contents) : s.CutsWhole where
  header := h.header_whole htext hstar
  field _ := h.field_whole htext

/-- **What the invariant says of the storage.** -/
theorem represents (h : s.reception.Recorded config history) : s.Represents config history where
  part := by
    intro hphase
    obtain ⟨hr, before, start, hstart, hhistory⟩ := h hphase
    exact ⟨before, start, _, hstart, hhistory, holdsPart hr⟩
  whole := by
    intro byte text hcomplete htext
    obtain ⟨hphase, hnext⟩ := eq_reset_of_complete hcomplete
    have hbusy : s.phase ≠ .start := by rw [hphase]; exact nofun
    have hstar : s.phase ≠ .fields := by rw [hphase]; exact nofun
    rw [hnext] at htext ⊢
    obtain ⟨hheader, hfield⟩ := cutsWhole (h hbusy).1 hstar (text?_eq_some_iff.mp htext)
    exact ⟨hheader, hfield⟩

end Stored

/-- **The storage of a receiver holds the part of a sentence that has come.**

Every state that pushes, bulk pushes and resets lead to has a history, which is all the bytes they
took.  In the middle of a sentence it ends with the bytes since a start character, and of these the
cells in use hold what came before the star; the checksum is theirs.  The header is open until the
first comma or star and ends there, and the fields lie between the commas behind it, in their order,
as many as there is room for.  When a sentence is complete and its body is a text, every cut falls
between two characters, and the header and all fields are cut out. -/
theorem storage_holds_sentence_part (config : Config) :
    (∀ state, (storedReceiver config).Reachable state ↔
      ∃ history, (storedReceiver config).recording.Reachable (state, history)) ∧
    ∀ state history, (storedReceiver config).recording.Reachable (state, history) →
      state.Represents config history :=
  ⟨fun _ => (storedReceiver config).reachable_iff_exists_history,
    fun _ _ h => Stored.represents (Stored.recorded h)⟩

/-- A sentence with a character of two bytes in its last field and its line feed still to come,
behind one that was given up and a byte of noise. -/
theorem storage_holds_sentence_part_line_feed :
    let config : Config := ⟨10, Config.usualStarts⟩
    let sentences := storedReceiver config
    let since : List UInt8 :=
      [0x47, 0x50, 0x47, 0x47, 0x41, 0x2C, 0x31, 0x2C, 0xC3, 0xA9, 0x2A, 0x30, 0x44, 0x0D]
    let abandoned := (sentences.pushBytes sentences.fresh [0x24, 0x41]).1
    let state := (sentences.pushBytes (sentences.reset abandoned) (0x55 :: 0x24 :: since)).1
    state.HoldsPart config since ∧ state.phase ≠ .start ∧
      state.headerEnd = some 5 ∧ state.table.contents = [(6, 7), (8, 10)] ∧
      (state.step config 0x0A).2 = .complete ∧ (state.step config 0x0A).1.CutsWhole := by
  intro config sentences since abandoned state
  have habandoned : sentences.recording.Reachable (abandoned, [0x24, 0x41]) :=
    .pushBytes .fresh [0x24, 0x41]
  have hreachable : sentences.recording.Reachable
      (state, [0x24, 0x41] ++ 0x55 :: 0x24 :: since) :=
    habandoned.reset.pushBytes (0x55 :: 0x24 :: since)
  obtain ⟨-, hholds⟩ := storage_holds_sentence_part config
  have hstate := hholds state _ hreachable
  have hphase : state.phase ≠ .start := nofun
  obtain ⟨before, start, since', -, -, hpart⟩ := hstate.part hphase
  have hreceived : state.store.contents ++ state.reception.ended = since := by decide +kernel
  obtain rfl : since' = since := hpart.received.trans hreceived
  have htext : text? (state.step config 0x0A).1.store.contents = some "GPGGA,1,é" :=
    text?_eq_some_iff.mpr (by decide +kernel)
  have hcomplete : (state.step config 0x0A).2 = .complete := by decide +kernel
  exact ⟨hpart, hphase, rfl, rfl, hcomplete, hstate.whole 0x0A _ hcomplete htext⟩

end VehicleLink.Sentence
