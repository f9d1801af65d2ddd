import VehicleLink.Proofs.Number.Reread
import VehicleLink.Proofs.Sentence.IntegerColumn
import VehicleLink.Proofs.Sentence.Link

/-!
# Proofs/Sentence/FloatColumn — binary numbers in columns

A number is rendered as the nearest multiple of the last decimal place, the even one of two that are
as near (`float_columns_accurate`).  Its text is read as a number that has the same decimals, so
writing it again gives the same text; only a number below zero that is rounded to zero is read as
zero, and has no sign from then on (`float_columns_reencode`).
-/

namespace VehicleLink

/-! ## Accuracy -/

/-- The number that digits around a point denote. -/
def denoted (whole fraction : List Char) : ℚ :=
  Nat.ofDigitChars 10 whole 0 + Nat.ofDigitChars 10 fraction 0 / 10 ^ fraction.length

theorem denoted_eq (whole fraction : List Char) : denoted whole fraction
    = Nat.ofDigitChars 10 (whole ++ fraction) 0 / 10 ^ fraction.length := by
  have hpos : (0 : ℚ) < 10 ^ fraction.length := by positivity
  rw [denoted, ofDigitChars_append_zero, Nat.cast_add, Nat.cast_mul, Nat.cast_pow,
    Nat.cast_ofNat, add_div, mul_div_cancel_left₀ _ hpos.ne']

theorem BinaryFormat.isWide_of_eq {format : BinaryFormat}
    (h : format = .single ∨ format = .double) : format.IsWide := by
  rcases h with rfl | rfl
  · exact isWide_single
  · exact isWide_double

/-- **Binary numbers are rendered accurately.**

The text of a finite number of 32 or 64 bits is a minus sign exactly if the number is below zero, then
one digit or more, and a point and as many digits as there are places if there are any.  Behind the
sign it is filled with zeros up to the width and no further, and denotes the multiple of the last
place that is nearest to the size of the number, the even one of two that are as near. -/
theorem float_columns_accurate {format : BinaryFormat}
    (hformat : format = .single ∨ format = .double) {x : Binary format} (hx : x.IsFinite)
    (places width : ℕ) :
    ∃ whole fraction : List Char,
      ((ColumnKind.float format).render places width x).toList
        = (if x.value < 0 then ['-'] else []) ++ pointed places whole fraction ∧
      IsNumeral whole ∧ fraction.length = places ∧ (∀ c ∈ fraction, c.isDigit) ∧
      Filled width (pointed places whole fraction).length whole ∧
      ∃ n : ℕ, denoted whole fraction = n * (1 / 10 ^ places) ∧
        NearestMultiple (1 / 10 ^ places) |x.value| n := by
  have hwide := BinaryFormat.isWide_of_eq hformat
  obtain ⟨whole, fraction, htext, hne, hplaces, hdigits, hspells, hfilled⟩ :=
    x.fixed_eq (Binary.datum_of_isFinite hx) places width
  obtain ⟨hwhole, hfraction⟩ := List.forall_mem_append.mp hdigits
  have hround := roundsTo_decimalUnits places (format.magnitude_nonneg x.code)
  rw [nearest_pow_ten] at hspells
  refine ⟨whole, fraction, ?_, ⟨hne, hwhole⟩, hplaces, hfraction, hfilled,
    decimalUnits places (format.magnitude x.code), ?_, ?_⟩
  · simp only [x.isBelowZero_iff hwide hx] at htext
    exact htext
  · rw [denoted_eq, hspells, hplaces, mul_one_div]
  · refine RoundsTo.nearestMultiple (by positivity) ?_
    rwa [Binary.abs_value hwide, one_div, div_inv_eq_mul]

/-- An eighth below zero is twelve and a half hundredths, a tie, and twelve is the even one. -/
theorem float_columns_accurate_eighth :
    let x : Binary .single := ⟨0xBE000000⟩
    x.IsFinite ∧ ∃ whole fraction : List Char,
      ((ColumnKind.float .single).render 2 6 x).toList
        = (if x.value < 0 then ['-'] else []) ++ pointed 2 whole fraction ∧
      IsNumeral whole ∧ fraction.length = 2 ∧ (∀ c ∈ fraction, c.isDigit) ∧
      Filled 6 (pointed 2 whole fraction).length whole ∧
      ∃ n : ℕ, denoted whole fraction = n * (1 / 10 ^ 2) ∧
        NearestMultiple (1 / 10 ^ 2) |x.value| n :=
  have hfinite : (⟨0xBE000000⟩ : Binary .single).IsFinite := by decide +kernel
  ⟨hfinite, float_columns_accurate (.inl rfl) hfinite 2 6⟩

example : (ColumnKind.float .single).render 2 6 (⟨0xBE000000⟩ : Binary .single) = "-000.12" := by
  decide +kernel

/-! ## Writing again -/

/-- **What becomes of a value that is written and read.**  It can be written again, and has the same
text then; only a sign may be lost, and no other after it. -/
structure Rewrites {α : Type} (CanSend LosesSign : α → Prop) (text : α → String) (sent got : α) :
    Prop where
  sendable : CanSend got
  settled : ¬ LosesSign got
  same : ¬ LosesSign sent → text got = text sent
  unsigned : LosesSign sent → (text sent).toList = '-' :: (text got).toList

/-- What is read as it was is written as it was. -/
theorem Rewrites.refl {α : Type} {CanSend LosesSign : α → Prop} {text : α → String} {value : α}
    (h : CanSend value) (hnever : ¬ LosesSign value) :
    Rewrites CanSend LosesSign text value value :=
  ⟨h, hnever, fun _ => rfl, fun hloses => absurd hloses hnever⟩

theorem BinaryFormat.IsWide.rewrites_reread {format : BinaryFormat} (h : format.IsWide)
    {x : Binary format} (hx : x.IsFinite) (places width : ℕ) :
    Rewrites Binary.IsFinite (Binary.LosesSign places) (Binary.fixed places width) x
      (x.reread places) where
  sendable := Binary.code_reread_lt h hx places
  settled := Binary.not_losesSign_reread h hx places
  same := Binary.fixed_reread h hx places width
  unsigned := Binary.toList_fixed_reread h hx places width

namespace ColumnKind

/-- Whether a value is a number below zero that is rounded to zero. -/
def LosesSign : (kind : ColumnKind) → (places : ℕ) → (value : kind.Value) → Prop
  | float _, places, (value : Binary _) => value.LosesSign places
  | integer _, _, _ | character, _, _ | text _, _, _ | indicator _, _, _ => False

instance : (kind : ColumnKind) → (places : ℕ) → (value : kind.Value) →
    Decidable (kind.LosesSign places value)
  | float _, places, (value : Binary _) => inferInstanceAs (Decidable (value.LosesSign places))
  | integer _, _, _ | character, _, _ | text _, _, _ | indicator _, _, _ =>
    inferInstanceAs (Decidable False)

/-- **What a kind keeps of a value has the same text**, but for a sign. -/
theorem Keeps.rewrites {kind : ColumnKind} (hwide : kind.IsWide) {places width : ℕ}
    {sent got : kind.Value} (hsent : kind.Sendable sent) (h : kind.Keeps places width sent got) :
    Rewrites kind.Sendable (kind.LosesSign places) (kind.render places width) sent got := by
  cases kind with
  | float format =>
    obtain rfl : got = Binary.reread places sent := h
    exact hwide.rewrites_reread hsent places width
  | integer type =>
    obtain rfl : got = sent := h
    exact .refl hsent not_false
  | character =>
    obtain rfl : got = sent := h
    exact .refl hsent not_false
  | text capacity =>
    have htext : PaddedText.text got = PaddedText.text sent := h.1
    have hplain : Plain (PaddedText.text got) := htext ▸ hsent
    exact ⟨hplain, not_false, fun _ => htext, False.elim⟩
  | indicator set =>
    obtain rfl : got = sent := h
    exact .refl hsent not_false

theorem not_isBlank_of_losesSign {kind : ColumnKind} {places : ℕ} {value : kind.Value}
    (h : kind.LosesSign places value) : ¬ kind.IsBlank value := by
  cases kind with
  | float format => exact not_false
  | integer type => exact absurd h not_false
  | character => exact absurd h not_false
  | text capacity => exact absurd h not_false
  | indicator set => exact absurd h not_false

end ColumnKind

namespace Column

/-- Whether there is a number below zero that is rounded to zero. -/
def LosesSign (column : Column) (value : column.Value) : Prop :=
  ∃ v, value = some v ∧ column.kind.LosesSign column.places v

theorem not_losesSign_none (column : Column) : ¬ column.LosesSign none := by
  rintro ⟨v, hv, -⟩
  cases hv

theorem losesSign_some {column : Column} {v : column.kind.Value} :
    column.LosesSign (some v) ↔ column.kind.LosesSign column.places v := by
  constructor
  · rintro ⟨u, hu, hloses⟩
    cases hu
    exact hloses
  · exact fun hloses => ⟨v, rfl, hloses⟩

instance (column : Column) : (value : column.Value) → Decidable (column.LosesSign value)
  | none => isFalse column.not_losesSign_none
  | some _ => decidable_of_iff _ losesSign_some.symm

/-- **What a column gives back has the same text**, but for a sign. -/
theorem Keeps.rewrites {column : Column} (hwide : column.kind.IsWide) {sent got : column.Value}
    (hsent : column.Sendable sent) (h : column.Keeps sent got) :
    Rewrites column.Sendable column.LosesSign column.render sent got := by
  cases got with
  | none =>
    have hblank := h.blank.mp rfl
    have hsendable : column.Sendable none := by
      intro v hv
      cases hv
    refine ⟨hsendable, column.not_losesSign_none, fun _ => (h.absent.mp rfl).symm, ?_⟩
    rintro ⟨v, hv, hloses⟩
    exact absurd (hblank v hv) (ColumnKind.not_isBlank_of_losesSign hloses)
  | some w =>
    cases sent with
    | none => exact absurd (h.absent.mpr rfl) (Option.some_ne_none w)
    | some v =>
      have hvalue := (h.present v w rfl rfl).rewrites hwide (hsent v rfl)
      refine ⟨fun _ hw => Option.some.inj hw ▸ hvalue.sendable, ?_, ?_, ?_⟩
      · rw [losesSign_some]
        exact hvalue.settled
      · rw [losesSign_some]
        exact hvalue.same
      · rw [losesSign_some]
        exact hvalue.unsigned

end Column

/-! ## Sentences -/

theorem Slot.mem {α : Type} {a : α} {as : List α} (slot : Slot a as) : a ∈ as := by
  induction slot with
  | here => exact List.mem_cons_self
  | there _ ih => exact List.mem_cons_of_mem _ ih

theorem Row.toList_congr {α δ : Type} {β : α → Type} {f : (a : α) → β a → δ} {as : List α}
    {row other : Row β as} (h : ∀ a (slot : Slot a as), f a (row.get slot) = f a (other.get slot)) :
    row.toList f = other.toList f := by
  induction row with
  | nil =>
    cases other
    rfl
  | cons entry rest ih =>
    cases other with
    | cons entry' rest' =>
      obtain ⟨hentry, hrest⟩ := Slot.forall_cons.mp h
      rw [toList, toList, ih hrest]
      exact congrArg (List.cons · _) hentry

/-- Whether no column of a sentence loses a sign. -/
def SentenceType.KeepsSigns {type : SentenceType} (sentence : type.Sentence) : Prop :=
  ∀ column (slot : Slot column type.columns), ¬ column.LosesSign (sentence.get slot)

instance {type : SentenceType} (sentence : type.Sentence) :
    Decidable (SentenceType.KeepsSigns sentence) :=
  Row.decidableForallGet (fun (column : Column) value => ¬ column.LosesSign value) sentence

/-- A sentence is written by the texts of its columns. -/
theorem SentenceType.write_congr {type : SentenceType} {sentence other : type.Sentence}
    (h : texts sentence = texts other) (talker : String) (buffer : List UInt8) :
    type.write talker sentence buffer = type.write talker other buffer := by
  simp only [write, bytes, writeFields, h]

/-- **What is read from the fields of a sentence is written with the same texts**, but for signs. -/
theorem SentenceKind.parse_bind_rewrites {kind : SentenceKind} {sentence : kind.type.Sentence}
    (hsent : ∀ column (slot : Slot column kind.type.columns),
      column.Sendable (sentence.get slot))
    {raw : RawSentence} (hraw : raw.fields = SentenceType.texts sentence) :
    ∃ got, kind.type.parse (kind.type.bind raw) = .ok got ∧
      ∀ column (slot : Slot column kind.type.columns),
        Rewrites column.Sendable column.LosesSign column.render (sentence.get slot)
          (got.get slot) := by
  obtain ⟨got, hparse, hkeeps⟩ := kind.type.parse_bind_texts kind.isWide sentence hsent
  refine ⟨got, ?_, fun column slot =>
    (hkeeps column slot).rewrites (kind.isWide column slot.mem) (hsent column slot)⟩
  rw [SentenceType.bind, hraw]
  exact hparse

theorem SentenceType.write_rewrites {type : SentenceType} {sentence got : type.Sentence}
    (h : ∀ column (slot : Slot column type.columns),
      Rewrites column.Sendable column.LosesSign column.render (sentence.get slot) (got.get slot))
    (hsigns : KeepsSigns sentence) (talker : String) (buffer : List UInt8) :
    type.write talker got buffer = type.write talker sentence buffer :=
  write_congr (Row.toList_congr fun column slot => (h column slot).same (hsigns column slot))
    talker buffer

/-- **A line that is sent is received**, in whatever chunks it comes. -/
theorem Sentence.Sending.Sendable.received {config : Config} {s : Sending}
    (h : s.Sendable config) (hstart : 0x24 ∈ config.starts) {chunks : List (List UInt8)}
    (hchunks : chunks.flatten = s.noise ++ s.sent) :
    ((receiver config).feedChunks (receiver config).fresh 0 chunks).2
      = [((s.noise ++ s.sent).length - 1, .ok s.raw)] := by
  have hreports := h.reports_fullBytes hstart
  rw [← h.sent_eq] at hreports
  rw [Receiver.feedChunks_eq_run, hchunks, events_of_idle rfl, skips_of_quiet h.noise,
    hreports.alone _ (grammar_nil config), Nat.zero_add, List.length_append]

/-- **Numbers that are read and written again keep their text.**

The text of a finite number of 32 or 64 bits, with any places and width, is read as a finite number.
Written again, this has the same text, unless the number was below zero and is rounded to zero: then
the text is the same behind the sign.  This happens once, as what was read does not lose a sign.

So a line that is sent is received, in whatever chunks it comes, as one sentence; this is bound to the
type that it was written for and read, and each column has the same text, but for a sign that it
loses.  If none does, the same bytes are written again. -/
theorem float_columns_reencode :
    (∀ format : BinaryFormat, format = .single ∨ format = .double →
      ∀ x : Binary format, x.IsFinite → ∀ places width : ℕ,
        let kind := ColumnKind.float format
        let text := kind.render places width x
        ∃ y : Binary format, kind.parse text = .ok (some y) ∧ y.IsFinite ∧ ¬ y.LosesSign places ∧
          (¬ x.LosesSign places → kind.render places width y = text) ∧
          (x.LosesSign places → text.toList = '-' :: (kind.render places width y).toList)) ∧
    ∀ (config : Sentence.Config) (s : Sentence.Sending) (chunks : List (List UInt8)),
      0x24 ∈ config.starts → s.Sendable config → chunks.flatten = s.noise ++ s.sent →
        let receiver := Sentence.receiver config
        ∃ raw got, (receiver.feedChunks receiver.fresh 0 chunks).2
            = [((s.noise ++ s.sent).length - 1, .ok raw)] ∧
          UnparsedSentence.ofRaw? raw = some ⟨s.kind, s.kind.type.bind raw⟩ ∧
          s.kind.type.parse (s.kind.type.bind raw) = .ok got ∧
          (∀ column (slot : Slot column s.kind.type.columns),
            Rewrites column.Sendable column.LosesSign column.render (s.sentence.get slot)
              (got.get slot)) ∧
          (SentenceType.KeepsSigns s.sentence → ∀ buffer,
            s.kind.type.write raw.talker got buffer
              = s.kind.type.write s.talker s.sentence buffer) := by
  refine ⟨fun format hformat x hx places width => ?_,
    fun config s chunks hstart hsent hchunks => ?_⟩
  · have hwide : (ColumnKind.float format).IsWide := BinaryFormat.isWide_of_eq hformat
    obtain ⟨y, hread, hkeeps⟩ := hwide.read?_render hx places width
    have hrewrites := hkeeps.rewrites hwide hx
    have hne := Binary.fixed_ne_empty (Binary.datum_of_isFinite hx) places width
    exact ⟨y, ColumnKind.parse_eq_some_iff.mpr ⟨hne, hread⟩, hrewrites.sendable,
      hrewrites.settled, hrewrites.same, hrewrites.unsigned⟩
  · obtain ⟨got, hparse, hrewrites⟩ :=
      SentenceKind.parse_bind_rewrites hsent.columns s.fields_raw
    exact ⟨s.raw, got, hsent.received hstart hchunks, hsent.delivered_raw.bound, hparse, hrewrites,
      fun hsigns buffer => SentenceType.write_rewrites hrewrites hsigns s.talker buffer⟩

/-- A rate of turn below zero, with a line feed as noise. -/
def turnToPort : Sentence.Sending where
  noise := [0x0A]
  kind := .rot
  sentence := .cons (some (⟨0xC0200000⟩ : Binary .single)) (.cons (some Status.active) .nil)
  talker := "HE"
  buffer := List.replicate 40 0

/-- A number that keeps its sign, one that loses it, and a line with the first of them. -/
theorem float_columns_reencode_turnToPort :
    let kind := ColumnKind.float .single
    let x : Binary .single := ⟨0xC0200000⟩
    let small : Binary .single := ⟨0xBA83126F⟩
    let config : Sentence.Config := ⟨40, [0x24]⟩
    let receiver := Sentence.receiver config
    ((x.IsFinite ∧ ¬ x.LosesSign 1) ∧ (small.IsFinite ∧ small.LosesSign 1) ∧
      0x24 ∈ config.starts ∧ turnToPort.Sendable config ∧
      SentenceType.KeepsSigns turnToPort.sentence) ∧
    (∃ y : Binary .single, kind.parse (kind.render 1 5 x) = .ok (some y) ∧
      kind.render 1 5 y = kind.render 1 5 x) ∧
    (∃ y : Binary .single, kind.parse (kind.render 1 0 small) = .ok (some y) ∧
      (kind.render 1 0 small).toList = '-' :: (kind.render 1 0 y).toList) ∧
    ∃ raw got, (receiver.feedChunks receiver.fresh 0 [turnToPort.noise, turnToPort.sent]).2
        = [((turnToPort.noise ++ turnToPort.sent).length - 1, .ok raw)] ∧
      SentenceType.rot.parse (SentenceType.rot.bind raw) = .ok got ∧
      ∀ buffer, SentenceType.rot.write raw.talker got buffer
        = SentenceType.rot.write turnToPort.talker turnToPort.sentence buffer := by
  intro kind x small config receiver
  have hx : x.IsFinite ∧ ¬ x.LosesSign 1 := by decide +kernel
  have hsmall : small.IsFinite ∧ small.LosesSign 1 := by decide +kernel
  have hstart : 0x24 ∈ config.starts := List.mem_singleton_self _
  have hsendable : turnToPort.Sendable config := by decide +kernel
  have hsigns : SentenceType.KeepsSigns turnToPort.sentence := by decide +kernel
  have hchunks : [turnToPort.noise, turnToPort.sent].flatten
      = turnToPort.noise ++ turnToPort.sent := by
    rw [List.flatten_cons, List.flatten_singleton]
  obtain ⟨hvalues, hlines⟩ := float_columns_reencode
  obtain ⟨y, hy, -, -, hsame, -⟩ := hvalues .single (.inl rfl) x hx.1 1 5
  obtain ⟨z, hz, -, -, -, hunsigned⟩ := hvalues .single (.inl rfl) small hsmall.1 1 0
  obtain ⟨raw, got, hreceived, -, hgot, -, hwrite⟩ :=
    hlines config turnToPort [turnToPort.noise, turnToPort.sent] hstart hsendable hchunks
  exact ⟨⟨hx, hsmall, hstart, hsendable, hsigns⟩, ⟨y, hy, hsame hx.2⟩,
    ⟨z, hz, hunsigned hsmall.2⟩, raw, got, hreceived, hgot, hwrite hsigns⟩

/-- A thousandth below zero is written with a sign, and read as zero, which is written without: its
text does not stay the same. -/
theorem minus_zero_reencodes_unsigned :
    let kind := ColumnKind.float .single
    let x : Binary .single := ⟨0xBA83126F⟩
    let zero : Binary .single := ⟨0x80000000⟩
    x.IsFinite ∧ kind.parse (kind.render 1 0 x) = .ok (some zero) ∧
      kind.render 1 0 x = "-0.0" ∧ kind.render 1 0 zero = "0.0" := by
  intro kind x zero
  have htext : kind.render 1 0 x = "-0.0" := by decide +kernel
  have hread : Binary.ofText? .single "-0.0" = some zero := by decide +kernel
  refine ⟨by decide +kernel, ?_, htext, by decide +kernel⟩
  rw [htext]
  exact ColumnKind.parse_eq_some_iff.mpr ⟨by decide, hread⟩

end VehicleLink
