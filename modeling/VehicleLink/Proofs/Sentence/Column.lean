import VehicleLink.Proofs.Number.Reread
import VehicleLink.Proofs.Text.Padded
import VehicleLink.Sentence.Raw

/-!
# Proofs/Sentence/Column — columns as text and back

What can be sent is rendered without the characters that delimit fields (`Column.plain_render`), and
read back column by column (`Column.parse_render`): integers and indicators as they were, texts with
the same text, numbers as the value nearest to the decimals printed (`Binary.reread`), and nothing as
nothing.  Binding the texts of a whole sentence and reading them does so for each of its columns
(`SentenceType.parse_bind_texts`).
-/

namespace VehicleLink

/-- Whether a text holds none of the characters that delimit fields and sentences. -/
def Plain (text : String) : Prop := ∀ c ∈ text.toList, c ≠ ',' ∧ c ≠ '*' ∧ c ≠ '\n'

instance (text : String) : Decidable (Plain text) :=
  List.decidableBAll _ _

theorem plain_empty : Plain "" := by
  rw [Plain, String.toList_empty]
  exact nofun

/-- Whether a pattern stands for a finite number. -/
def Binary.IsFinite {format : BinaryFormat} (x : Binary format) : Prop := x.code < format.infinity

instance {format : BinaryFormat} (x : Binary format) : Decidable x.IsFinite :=
  inferInstanceAs (Decidable (_ < _))

theorem Binary.datum_of_isFinite {format : BinaryFormat} {x : Binary format} (h : x.IsFinite) :
    x.datum = .finite x.signBit (format.magnitude x.code) :=
  if_pos h

/-! ## Indicators -/

namespace IndicatorSet

/-- **A member is found by its letter.** -/
theorem ofLetter?_letter (set : IndicatorSet) (member : set.Member) :
    set.ofLetter? (letter member) = some member := by
  cases set <;> cases member <;> rfl

theorem plain_letter (set : IndicatorSet) (member : set.Member) :
    Plain (String.ofList [letter member]) := by
  cases set <;> cases member <;> decide

end IndicatorSet

/-! ## One value -/

/-- A character that is no delimiter: a digit, a sign or a point. -/
theorem plain_of_isDigit {c : Char} (h : c = '-' ∨ c = '.' ∨ c.isDigit) :
    c ≠ ',' ∧ c ≠ '*' ∧ c ≠ '\n' := by
  refine ⟨?_, ?_, ?_⟩ <;> rintro rfl <;> exact absurd h (by decide)

theorem plain_text (width : Nat) (i : Int) : Plain (IntegerType.text width i) := by
  intro c hc
  rw [IntegerType.text, String.toList_ofList] at hc
  rcases List.mem_append.mp hc with hsign | hdigit
  · split at hsign
    · exact plain_of_isDigit (.inl (List.mem_singleton.mp hsign))
    · cases hsign
  · exact plain_of_isDigit (.inr (.inr (isDigit_leftpad (isDigit_toDigits _) width c hdigit)))

theorem plain_fixed {format : BinaryFormat} {x : Binary format} (h : x.IsFinite)
    (places width : Nat) : Plain (x.fixed places width) :=
  fun _ hc => plain_of_isDigit (x.mem_fixed (x.datum_of_isFinite h) hc)

namespace ColumnKind

/-- What can be sent in a column: finite numbers, and texts that hold no delimiter. -/
def Sendable : (kind : ColumnKind) → (value : kind.Value) → Prop
  | float _, (value : Binary _) => value.IsFinite
  | integer _, _ => True
  | character, (value : Char) => Plain (String.ofList [value])
  | text _, (value : PaddedText _) => Plain value.text
  | indicator _, _ => True

instance : (kind : ColumnKind) → (value : kind.Value) → Decidable (kind.Sendable value)
  | float _, (value : Binary _) => inferInstanceAs (Decidable value.IsFinite)
  | character, (value : Char) => inferInstanceAs (Decidable (Plain (String.ofList [value])))
  | text _, (value : PaddedText _) => inferInstanceAs (Decidable (Plain value.text))
  | integer _, _ | indicator _, _ => inferInstanceAs (Decidable True)

/-- Whether a kind is not one of numbers, or its format is wide. -/
def IsWide : (kind : ColumnKind) → Prop
  | float format => format.IsWide
  | integer _ | character | text _ | indicator _ => True

instance : (kind : ColumnKind) → Decidable kind.IsWide
  | float format => inferInstanceAs (Decidable format.IsWide)
  | integer _ | character | text _ | indicator _ => inferInstanceAs (Decidable True)

/-- What is left of a value that was sent as text: of a number the value nearest to the decimals
printed, and of a padded text the text, followed by zeros. -/
def Keeps : (kind : ColumnKind) → (places width : Nat) → (sent got : kind.Value) → Prop
  | float _, places, _, (sent : Binary _), (got : Binary _) => got = sent.reread places
  | integer _, _, _, sent, got => got = sent
  | character, _, _, sent, got => got = sent
  | text capacity, _, _, (sent : PaddedText capacity), (got : PaddedText capacity) =>
    got.text = sent.text ∧ got.bytes = (utf8 sent.text).rightpad capacity 0
  | indicator _, _, _, sent, got => got = sent

/-- Whether a value is a text without characters. -/
def IsBlank : (kind : ColumnKind) → (value : kind.Value) → Prop
  | text _, (value : PaddedText _) => value.text = ""
  | float _, _ | integer _, _ | character, _ | indicator _, _ => False

variable (kind : ColumnKind)

theorem parse_empty : kind.parse "" = .ok none := rfl

theorem parse_of_ne_empty {token : String} (h : token ≠ "") :
    kind.parse token = match kind.read? token with
      | some reading => .ok (some reading)
      | none => .error .malformed :=
  if_neg (mt String.isEmpty_iff.mp h)

/-- Only a text without characters is rendered as nothing. -/
theorem render_eq_empty_iff {value : kind.Value} (h : kind.Sendable value) (places width : Nat) :
    kind.render places width value = "" ↔ kind.IsBlank value := by
  cases kind with
  | float format =>
    refine ⟨fun hempty => ?_, nofun⟩
    exact Binary.fixed_ne_empty (Binary.datum_of_isFinite h) places width hempty
  | integer type =>
    exact ⟨fun hempty => IntegerType.text_ne_empty width value.val hempty, nofun⟩
  | character =>
    exact ⟨fun hempty => List.cons_ne_nil _ _ (String.ofList_eq_empty_iff.mp hempty), nofun⟩
  | text capacity => exact Iff.rfl
  | indicator set =>
    exact ⟨fun hempty => List.cons_ne_nil _ _ (String.ofList_eq_empty_iff.mp hempty), nofun⟩

/-- What can be sent is rendered without delimiters. -/
theorem plain_render {value : kind.Value} (h : kind.Sendable value) (places width : Nat) :
    Plain (kind.render places width value) := by
  cases kind with
  | float format => exact plain_fixed h places width
  | integer type => exact plain_text width value.val
  | character => exact h
  | text capacity => exact h
  | indicator set => exact set.plain_letter value

/-- **What was rendered is read back.** -/
theorem IsWide.read?_render {kind : ColumnKind} (hwide : kind.IsWide) {value : kind.Value}
    (h : kind.Sendable value) (places width : Nat) :
    ∃ reading, kind.read? (kind.render places width value) = some reading ∧
      kind.Keeps places width value (kind.store reading) := by
  cases kind with
  | float format =>
    exact ⟨_, Binary.ofText?_fixed (Binary.datum_of_isFinite h) places width,
      Binary.toBinary_eq_reread hwide value places⟩
  | integer type => exact ⟨value, type.ofText?_text width value, rfl⟩
  | character =>
    have hhead : (String.ofList [value]).toList.head? = some value := by
      rw [String.toList_ofList]
      rfl
    exact ⟨value, hhead, rfl⟩
  | text capacity =>
    exact ⟨_, rfl, PaddedText.text_ofText_text value,
      PaddedText.bytes_ofText_of_le (PaddedText.length_utf8_text_le value)⟩
  | indicator set =>
    have hhead : (String.ofList [IndicatorSet.letter value]).toList.head?
        = some (IndicatorSet.letter value) := by
      rw [String.toList_ofList]
      rfl
    refine ⟨value, ?_, rfl⟩
    rw [read?, render, hhead]
    exact set.ofLetter?_letter value

end ColumnKind

/-! ## One column -/

namespace Column

/-- Whether a value, if there is one, can be sent. -/
def Sendable (column : Column) (value : column.Value) : Prop :=
  ∀ v, value = some v → column.kind.Sendable v

instance (column : Column) : (value : column.Value) → Decidable (column.Sendable value)
  | none => isTrue nofun
  | some v => decidable_of_iff (column.kind.Sendable v)
      ⟨fun h _ hv => Option.some.inj hv ▸ h, fun h => h v rfl⟩

/-- Whether there is no value, or a text without characters. -/
def IsBlank (column : Column) (value : column.Value) : Prop :=
  ∀ v, value = some v → column.kind.IsBlank v

/-- **What a column gives back of a value that was sent**: nothing exactly if its text was empty, so
for a blank value, and else what the column's kind keeps of the value. -/
structure Keeps (column : Column) (sent got : column.Value) : Prop where
  absent : got = none ↔ column.render sent = ""
  blank : got = none ↔ column.IsBlank sent
  present : ∀ v w, sent = some v → got = some w → column.kind.Keeps column.places column.width v w

variable (column : Column)

theorem plain_render {value : column.Value} (h : column.Sendable value) :
    Plain (column.render value) := by
  cases value with
  | none => exact plain_empty
  | some v => exact column.kind.plain_render (h v rfl) column.places column.width

theorem render_eq_empty_iff {value : column.Value} (h : column.Sendable value) :
    column.render value = "" ↔ column.IsBlank value := by
  cases value with
  | none => exact ⟨fun _ => nofun, fun _ => rfl⟩
  | some v =>
    refine (column.kind.render_eq_empty_iff (h v rfl) column.places column.width).trans ?_
    exact ⟨fun hblank _ hv => Option.some.inj hv ▸ hblank, fun hblank => hblank v rfl⟩

/-- **A column that was rendered is read back.** -/
theorem parse_render (hwide : column.kind.IsWide) {sent : column.Value}
    (h : column.Sendable sent) :
    ∃ got, column.parse (column.render sent) = .ok got ∧ column.Keeps sent got := by
  have hblank := column.render_eq_empty_iff h
  by_cases hempty : column.render sent = ""
  · have habsent : (none : column.Value) = none ↔ column.render sent = "" :=
      ⟨fun _ => hempty, fun _ => rfl⟩
    refine ⟨none, ?_, habsent, habsent.trans hblank, fun v w _ hw => nomatch hw⟩
    rw [hempty]
    rfl
  · cases sent with
    | none => exact absurd rfl hempty
    | some value =>
      obtain ⟨reading, hread, hkeeps⟩ :=
        hwide.read?_render (h value rfl) column.places column.width
      have habsent : (some (column.kind.store reading) : column.Value) = none
          ↔ column.render (some value) = "" := ⟨nofun, fun hrender => absurd hrender hempty⟩
      refine ⟨some (column.kind.store reading), ?_, habsent, habsent.trans hblank, ?_⟩
      · have hparse : column.kind.parse (column.render (some value)) = .ok (some reading) := by
          rw [ColumnKind.parse_of_ne_empty _ hempty, Column.render, hread]
        rw [parse, hparse]
        rfl
      · rintro v w hv hw
        rw [← Option.some.inj hv, ← Option.some.inj hw]
        exact hkeeps

end Column

/-! ## All columns -/

theorem Row.forall_get_cons {α : Type} {β : α → Type} {P : (a : α) → β a → Prop} {b : α}
    {as : List α} {entry : β b} {rest : Row β as} :
    (∀ a (slot : Slot a (b :: as)), P a ((cons entry rest).get slot))
      ↔ P b entry ∧ ∀ a (slot : Slot a as), P a (rest.get slot) :=
  Slot.forall_cons

instance Row.decidableForallGet {α : Type} {β : α → Type} (P : (a : α) → β a → Prop)
    [∀ a entry, Decidable (P a entry)] :
    {as : List α} → (row : Row β as) → Decidable (∀ a (slot : Slot a as), P a (row.get slot))
  | _, nil => isTrue nofun
  | _, cons _ rest =>
    have := decidableForallGet P rest
    decidable_of_iff _ forall_get_cons.symm

namespace SentenceType

/-- Reading the texts of columns, each at its place. -/
theorem mapM_parse_bindTokens {columns : List Column}
    (hwide : ∀ column ∈ columns, column.kind.IsWide) (sentence : Row Column.Value columns)
    (h : ∀ column (slot : Slot column columns), column.Sendable (sentence.get slot)) :
    ∃ got, Row.mapM Column.parse (bindTokens columns (sentence.toList Column.render)) = .ok got ∧
      ∀ column (slot : Slot column columns), column.Keeps (sentence.get slot) (got.get slot) := by
  induction sentence with
  | nil => exact ⟨.nil, rfl, nofun⟩
  | @cons column columns value sentence ih =>
    obtain ⟨hvalue, hrest⟩ := Row.forall_get_cons.mp h
    obtain ⟨hfirstWide, hrestWide⟩ := List.forall_mem_cons.mp hwide
    obtain ⟨first, hfirst, hkeepsFirst⟩ := column.parse_render hfirstWide hvalue
    obtain ⟨got, hgot, hkeeps⟩ := ih hrestWide hrest
    refine ⟨.cons first got, ?_, ?_⟩
    · rw [Row.toList, bindTokens, List.headD_cons, List.tail_cons, Row.mapM, hfirst, hgot]
    · rintro column' (_ | slot)
      · exact hkeepsFirst
      · exact hkeeps column' slot

variable (type : SentenceType)

/-- **The columns of a sentence are read back from their texts**, each at its place. -/
theorem parse_bind_texts (hwide : ∀ column ∈ type.columns, column.kind.IsWide)
    (sentence : type.Sentence)
    (h : ∀ column (slot : Slot column type.columns), column.Sendable (sentence.get slot)) :
    ∃ got, type.parse (bindTokens type.columns (texts sentence)) = .ok got ∧
      ∀ column (slot : Slot column type.columns),
        column.Keeps (sentence.get slot) (got.get slot) :=
  mapM_parse_bindTokens hwide sentence h

theorem plain_of_mem_texts {columns : List Column} (sentence : Row Column.Value columns)
    (h : ∀ column (slot : Slot column columns), column.Sendable (sentence.get slot)) :
    ∀ text ∈ sentence.toList Column.render, Plain text := by
  induction sentence with
  | nil => exact nofun
  | @cons column columns value sentence ih =>
    obtain ⟨hvalue, hrest⟩ := Row.forall_get_cons.mp h
    intro text htext
    rcases List.mem_cons.mp htext with rfl | htext
    · exact column.plain_render hvalue
    · exact ih hrest text htext

end SentenceType

end VehicleLink
