import VehicleLink.Proofs.Sentence.Canonical

/-!
# Proofs/Sentence/Binding — the columns of a received sentence

A received sentence is bound by position: the token of a column is the field at the column's place,
and an empty text if the sentence ends before it.  Reading the tokens is all or nothing, each column
then holds what its token gives (`ColumnKind.Gives`), and the columns are the same, in the same order,
as those that are written (`columns_bound_by_position`).

A `Slot` is what carries this.  The lists on both sides, of texts written and of tokens bound, are
taken apart at the same slot (`Row.getElem?_toList`, `get_bindTokens`), so no column is looked at by
name, and no type by itself.
-/

namespace VehicleLink

/-! ## Rows, slot by slot -/

namespace Row

variable {α δ ε : Type} {β γ : α → Type}

theorem getElem?_toList (f : (a : α) → β a → δ) {a : α} {as : List α} (row : Row β as)
    (slot : Slot a as) : (row.toList f)[slot.index]? = some (f a (row.get slot)) := by
  induction slot with
  | here =>
    cases row
    rfl
  | there slot ih =>
    cases row with
    | cons entry rest => exact ih rest

/-- **A row of results is one result for each slot.** -/
theorem mapM_eq_ok_iff {f : (a : α) → β a → Except ε (γ a)} {as : List α} {row : Row β as}
    {result : Row γ as} :
    row.mapM f = .ok result ↔ ∀ a (slot : Slot a as), f a (row.get slot) = .ok (result.get slot) := by
  induction row with
  | nil =>
    cases result
    exact iff_of_true rfl fun _ slot => by cases slot
  | cons entry rest ih =>
    cases result with
    | cons first others =>
      have hslots : (∀ b slot, f b ((cons entry rest).get slot) = .ok ((cons first others).get slot))
          ↔ f _ entry = .ok first ∧ rest.mapM f = .ok others :=
        Slot.forall_cons.trans (and_congr_right' ih.symm)
      rw [hslots, mapM]
      cases f _ entry with
      | error e => exact iff_of_false (fun h => by cases h) fun h => by cases h.1
      | ok first' =>
        cases rest.mapM f with
        | error e => exact iff_of_false (fun h => by cases h) fun h => by cases h.2
        | ok others' => simp

/-- **A row fails only where one of its slots does.** -/
theorem exists_error_of_mapM {f : (a : α) → β a → Except ε (γ a)} {as : List α} {row : Row β as}
    {e : ε} (h : row.mapM f = .error e) : ∃ a, ∃ slot : Slot a as, f a (row.get slot) = .error e := by
  induction row with
  | nil => cases h
  | @cons a as entry rest ih =>
    cases hentry : f a entry with
    | error e' =>
      rw [mapM, hentry] at h
      cases h
      exact ⟨a, .here, hentry⟩
    | ok first =>
      cases hrest : rest.mapM f with
      | error e' =>
        rw [mapM, hentry, hrest] at h
        cases h
        obtain ⟨b, slot, hslot⟩ := ih hrest
        exact ⟨b, slot.there, hslot⟩
      | ok others =>
        rw [mapM, hentry, hrest] at h
        cases h

/-- So it succeeds if all of its slots do. -/
theorem exists_mapM_eq_ok {f : (a : α) → β a → Except ε (γ a)} {as : List α} {row : Row β as}
    (h : ∀ a (slot : Slot a as), ∃ entry, f a (row.get slot) = .ok entry) :
    ∃ result, row.mapM f = .ok result := by
  cases hrow : row.mapM f with
  | ok result => exact ⟨result, rfl⟩
  | error e =>
    obtain ⟨a, slot, hslot⟩ := exists_error_of_mapM hrow
    obtain ⟨entry, hentry⟩ := h a slot
    rw [hentry] at hslot
    cases hslot

end Row

/-! ## Tokens -/

/-- **The token of a column is the one at its place.** -/
theorem get_bindTokens {column : Column} {columns : List Column} (slot : Slot column columns)
    (tokens : List String) : (bindTokens columns tokens).get slot = tokens.getD slot.index "" := by
  induction slot generalizing tokens with
  | here => cases tokens <;> rfl
  | there slot ih =>
    cases tokens with
    | nil => exact ih []
    | cons token tokens => exact ih tokens

/-- **Tokens behind the last column do not matter.** -/
theorem bindTokens_take {columns : List Column} {count : Nat} (h : columns.length ≤ count)
    (tokens : List String) : bindTokens columns (tokens.take count) = bindTokens columns tokens := by
  induction columns generalizing count tokens with
  | nil => rfl
  | cons column columns ih =>
    obtain ⟨count, rfl⟩ := Nat.exists_eq_add_one_of_ne_zero (Nat.ne_zero_of_lt h)
    cases tokens with
    | nil => rfl
    | cons token tokens =>
      have hrest := ih (Nat.le_of_succ_le_succ h) tokens
      rw [List.take_succ_cons, bindTokens, bindTokens, List.tail_cons, List.tail_cons, hrest]
      rfl

/-! ## One column -/

namespace ColumnKind

variable {kind : ColumnKind} {token : String}

/-- Only an empty token reads as absent. -/
theorem parse_eq_none_iff : kind.parse token = .ok none ↔ token = "" := by
  by_cases hempty : token = ""
  · subst hempty
    exact iff_of_true kind.parse_empty rfl
  · refine iff_of_false ?_ hempty
    rw [kind.parse_of_ne_empty hempty]
    cases kind.read? token <;> exact fun h => by cases h

/-- A token that is not empty is read as its kind says. -/
theorem parse_eq_some_iff {reading : kind.Reading} :
    kind.parse token = .ok (some reading) ↔ token ≠ "" ∧ kind.read? token = some reading := by
  by_cases hempty : token = ""
  · subst hempty
    exact iff_of_false (fun h => by cases h) fun h => h.1 rfl
  · rw [kind.parse_of_ne_empty hempty, and_iff_right hempty]
    cases kind.read? token with
    | none => exact iff_of_false (fun h => by cases h) fun h => by cases h
    | some reading' => exact ⟨fun h => Except.ok.inj h, fun h => congrArg Except.ok h⟩

/-- There is one way to fail. -/
theorem eq_malformed_of_parse {error : LinkError} (h : kind.parse token = .error error) :
    error = .malformed := by
  by_cases hempty : token = ""
  · subst hempty
    cases h
  · rw [kind.parse_of_ne_empty hempty] at h
    cases hread : kind.read? token with
    | none =>
      rw [hread] at h
      exact (Except.error.inj h).symm
    | some reading =>
      rw [hread] at h
      cases h

theorem parse_eq_malformed_iff :
    kind.parse token = .error .malformed ↔ token ≠ "" ∧ kind.read? token = none := by
  by_cases hempty : token = ""
  · subst hempty
    exact iff_of_false (fun h => by cases h) fun h => h.1 rfl
  · rw [kind.parse_of_ne_empty hempty, and_iff_right hempty]
    cases kind.read? token with
    | none => exact iff_of_true rfl rfl
    | some reading => exact iff_of_false (fun h => by cases h) fun h => by cases h

/-- Whether a token gives a value: a number, a character or an indicator as it is read, and a text as
far as it fits. -/
def Gives : (kind : ColumnKind) → (token : String) → (value : kind.Value) → Prop
  | float format, token, (value : Binary format) => Binary.ofText? format token = some value
  | integer type, token, (value : type.Value) => type.ofText? token = some value
  | character, token, (value : Char) => token.toList.head? = some value
  | text capacity, token, (value : PaddedText capacity) => value = PaddedText.ofText capacity token
  | indicator set, token, (value : set.Member) =>
    ∃ letter, token.toList.head? = some letter ∧ set.ofLetter? letter = some value

/-- **What is stored of a reading is what the token gives**: all kinds but texts keep the reading. -/
theorem gives_iff {value : kind.Value} :
    kind.Gives token value
      ↔ ∃ reading, kind.read? token = some reading ∧ kind.store reading = value := by
  cases kind with
  | float _ | integer _ | character => exact exists_eq_right.symm
  | text capacity =>
    constructor
    · rintro rfl
      exact ⟨token, rfl, rfl⟩
    · rintro ⟨reading, hreading, rfl⟩
      rw [Option.some.inj hreading]
      rfl
  | indicator set =>
    constructor
    · exact fun hgives => ⟨value, Option.bind_eq_some_iff.mpr hgives, rfl⟩
    · rintro ⟨reading, hreading, rfl⟩
      exact Option.bind_eq_some_iff.mp hreading

end ColumnKind

namespace Column

variable {column : Column} {token : String}

/-- A column stores what its kind reads. -/
theorem parse_eq_ok_iff {value : column.Value} :
    column.parse token = .ok value
      ↔ ∃ reading, column.kind.parse token = .ok reading ∧ value = reading.map column.kind.store := by
  rw [parse]
  cases column.kind.parse token with
  | error e =>
    refine iff_of_false (fun h => by cases h) ?_
    rintro ⟨reading, hreading, -⟩
    cases hreading
  | ok reading =>
    refine ⟨fun h => ⟨reading, rfl, (Except.ok.inj h).symm⟩, ?_⟩
    rintro ⟨reading', hreading, rfl⟩
    rw [Except.ok.inj hreading]
    rfl

theorem parse_eq_error_iff {error : LinkError} :
    column.parse token = .error error ↔ column.kind.parse token = .error error := by
  rw [parse]
  cases column.kind.parse token with
  | error e =>
    exact ⟨fun h => congrArg _ (Except.error.inj h), fun h => congrArg _ (Except.error.inj h)⟩
  | ok reading => exact iff_of_false (fun h => by cases h) fun h => by cases h

end Column

/-! ## All columns -/

namespace SentenceType

variable {type : SentenceType}

/-- Whether the token of every column can be read. -/
def Readable (tokens : type.Unparsed) : Prop :=
  ∀ column (slot : Slot column type.columns), ∃ reading,
    column.kind.parse (tokens.get slot) = .ok reading

/-- Whether a sentence holds in every column what is read from its token, as far as it can be
stored. -/
def Reads (tokens : type.Unparsed) (sentence : type.Sentence) : Prop :=
  ∀ column (slot : Slot column type.columns), ∃ reading,
    column.kind.parse (tokens.get slot) = .ok reading ∧
      sentence.get slot = reading.map column.kind.store

variable {tokens : type.Unparsed} {sentence : type.Sentence}

/-- **Reading a sentence is reading each of its columns.** -/
theorem parse_eq_ok_iff : type.parse tokens = .ok sentence ↔ Reads tokens sentence :=
  Row.mapM_eq_ok_iff.trans (forall₂_congr fun _ _ => Column.parse_eq_ok_iff)

theorem Readable.exists_parse_eq_ok (h : Readable tokens) :
    ∃ sentence, type.parse tokens = .ok sentence := by
  refine Row.exists_mapM_eq_ok fun column slot => ?_
  obtain ⟨reading, hreading⟩ := h column slot
  exact ⟨_, Column.parse_eq_ok_iff.mpr ⟨reading, hreading, rfl⟩⟩

theorem Reads.readable (h : Reads tokens sentence) : Readable tokens := fun column slot =>
  let ⟨reading, hreading, _⟩ := h column slot
  ⟨reading, hreading⟩

/-- **One column that cannot be read is enough to refuse a sentence.** -/
theorem parse_eq_malformed (h : ¬ Readable tokens) : type.parse tokens = .error .malformed := by
  cases hparse : type.parse tokens with
  | ok sentence => exact absurd (parse_eq_ok_iff.mp hparse).readable h
  | error error =>
    obtain ⟨column, slot, hslot⟩ := Row.exists_error_of_mapM hparse
    rw [ColumnKind.eq_malformed_of_parse (Column.parse_eq_error_iff.mp hslot)]

theorem readable_iff_isOk : Readable tokens ↔ (type.parse tokens).isOk = true := by
  constructor
  · intro h
    obtain ⟨sentence, hparse⟩ := h.exists_parse_eq_ok
    rw [hparse]
    rfl
  · intro h
    cases hparse : type.parse tokens with
    | error error =>
      rw [hparse] at h
      cases h
    | ok sentence => exact (parse_eq_ok_iff.mp hparse).readable

instance (tokens : type.Unparsed) : Decidable (Readable tokens) :=
  decidable_of_iff _ readable_iff_isOk.symm

/-- A column holds nothing exactly if its token is empty. -/
theorem Reads.get_eq_none_iff (h : Reads tokens sentence) {column : Column}
    (slot : Slot column type.columns) : sentence.get slot = none ↔ tokens.get slot = "" := by
  obtain ⟨reading, hreading, hget⟩ := h column slot
  rw [hget, Option.map_eq_none_iff]
  refine ⟨?_, fun hempty => ?_⟩
  · rintro rfl
    exact ColumnKind.parse_eq_none_iff.mp hreading
  · rw [ColumnKind.parse_eq_none_iff.mpr hempty] at hreading
    exact (Except.ok.inj hreading).symm

/-- **A column holds a value exactly if its token gives this value.** -/
theorem Reads.get_eq_some_iff (h : Reads tokens sentence) {column : Column}
    (slot : Slot column type.columns) {value : column.kind.Value} :
    sentence.get slot = some value
      ↔ tokens.get slot ≠ "" ∧ column.kind.Gives (tokens.get slot) value := by
  obtain ⟨reading, hreading, hget⟩ := h column slot
  have hsome (read : column.kind.Reading) :
      reading = some read
        ↔ tokens.get slot ≠ "" ∧ column.kind.read? (tokens.get slot) = some read := by
    rw [← ColumnKind.parse_eq_some_iff, hreading, Except.ok.injEq]
  simp only [hget, Option.map_eq_some_iff, hsome, ColumnKind.gives_iff, and_assoc, exists_and_left]

/-- A text is stored as far as it fits. -/
theorem Reads.get_text (h : Reads tokens sentence) {name : String} {capacity : Nat}
    (slot : Slot (Column.text name capacity) type.columns) (hnonempty : tokens.get slot ≠ "") :
    sentence.get slot = some (PaddedText.ofText capacity (tokens.get slot)) :=
  (h.get_eq_some_iff slot).mpr ⟨hnonempty, rfl⟩

/-- The columns that are written are those that are bound. -/
theorem get_bindTokens_texts {column : Column} (sentence : type.Sentence)
    (slot : Slot column type.columns) :
    (bindTokens type.columns (texts sentence)).get slot = column.render (sentence.get slot) := by
  rw [get_bindTokens, List.getD_eq_getElem?_getD, texts, Row.getElem?_toList, Option.getD_some]

end SentenceType

/-! ## The types of the catalogue -/

namespace SentenceKind

variable (kind : SentenceKind)

theorem ofId?_id : ofId? kind.type.id = some kind := by
  cases kind <;> rfl

/-- **An identifier finds the kind that has it.** -/
theorem ofId?_eq_some_iff {id : String} {kind : SentenceKind} :
    ofId? id = some kind ↔ id = kind.type.id :=
  ⟨fun h => (id_of_ofId? h).symm, fun h => h ▸ kind.ofId?_id⟩

theorem ofId?_eq_none_iff {id : String} :
    ofId? id = none ↔ ∀ kind : SentenceKind, id ≠ kind.type.id :=
  Option.eq_none_iff_forall_ne_some.trans (forall_congr' fun _ => not_congr ofId?_eq_some_iff)

theorem length_utf8_id : (utf8 kind.type.id).length = 3 := by
  cases kind <;> rfl

theorem plain_id : Plain kind.type.id := by
  cases kind <;> decide

theorem columns_ne_nil : kind.type.columns ≠ [] := by
  cases kind <;> exact List.cons_ne_nil _ _

theorem fieldCount_le : kind.type.fieldCount ≤ maxFields := by
  cases kind <;> decide

/-- The numbers of the catalogue have 32 or 64 bits. -/
theorem isWide : ∀ column ∈ kind.type.columns, column.kind.IsWide := by
  cases kind <;> decide

end SentenceKind

/-- A type of the catalogue has no more columns than are kept. -/
theorem SentenceKind.fields_ofFields_texts {kind : SentenceKind} (sentence : kind.type.Sentence)
    (talker id : String) :
    (RawSentence.ofFields talker id (SentenceType.texts sentence)).fields
      = SentenceType.texts sentence := by
  refine List.take_of_length_le ?_
  rw [SentenceType.texts, Row.length_toList]
  exact kind.fieldCount_le

/-! ## Binding -/

theorem UnparsedSentence.ofRaw?_eq_some_iff {raw : RawSentence} {kind : SentenceKind} :
    ofRaw? raw = some ⟨kind, kind.type.bind raw⟩ ↔ raw.id = kind.type.id := by
  rw [ofRaw?, Option.map_eq_some_iff, ← SentenceKind.ofId?_eq_some_iff]
  refine ⟨?_, fun h => ⟨kind, h, rfl⟩⟩
  rintro ⟨found, hfound, hbound⟩
  obtain ⟨rfl, -⟩ := UnparsedSentence.mk.inj hbound
  exact hfound

namespace SentenceType

variable {type : SentenceType} {raw : RawSentence}

/-- With the right identifier the fields are counted. -/
theorem bindStrict_of_id (h : raw.id = type.id) :
    type.bindStrict raw = if raw.fields.length < type.fieldCount
      then .error (.fieldCountMismatch type.fieldCount raw.fields.length)
      else .ok (type.bind raw) :=
  if_neg fun hne => hne h

end SentenceType

/-! ## Columns on both sides -/

theorem FieldWriter.count_foldl_put (writer : FieldWriter) (texts : List String) :
    (texts.foldl put writer).count = writer.count + texts.length := by
  induction texts generalizing writer with
  | nil => rfl
  | cons text texts ih =>
    rw [List.foldl_cons, ih, put, List.length_cons, Nat.add_right_comm, Nat.add_assoc]

/-- **The columns of a sentence are bound by position.**

For each type of the catalogue and any fields under any identifier: a column's token is the field at
its place, and an empty text if there is none; fields behind the last column do not matter.  The
identifier finds the one type that has it.  Strict binding asks for this identifier first and for all
fields second, and is then binding.  Reading succeeds exactly if each column's token can be read, and
each column then holds what its token gives: nothing if it is empty, a number, a character or an
indicator as it is read, and a text as far as it fits.  A sentence to be written has its columns at the
same places. -/
theorem columns_bound_by_position (kind : SentenceKind) (talker id : String)
    (fields : List String) :
    let raw := RawSentence.ofFields talker id fields
    let bound := kind.type.bind raw
    (raw.fields = fields.take 32 ∧
      bound = bindTokens kind.type.columns (fields.take kind.type.fieldCount) ∧
      ∀ column (slot : Slot column kind.type.columns),
        bound.get slot = raw.fields.getD slot.index "" ∧
          bound.get slot = fields.getD slot.index "") ∧
    ((UnparsedSentence.ofRaw? raw = some ⟨kind, bound⟩ ↔ id = kind.type.id) ∧
      (UnparsedSentence.ofRaw? raw = none ↔ ∀ other : SentenceKind, id ≠ other.type.id)) ∧
    ((id ≠ kind.type.id → kind.type.bindStrict raw = .error .malformed) ∧
      (id = kind.type.id → raw.fields.length < kind.type.fieldCount → kind.type.bindStrict raw
        = .error (.fieldCountMismatch kind.type.fieldCount raw.fields.length)) ∧
      (id = kind.type.id → kind.type.fieldCount ≤ raw.fields.length →
        kind.type.bindStrict raw = .ok bound)) ∧
    ((∀ sentence, kind.type.parse bound = .ok sentence ↔ SentenceType.Reads bound sentence) ∧
      (SentenceType.Readable bound → ∃ sentence, kind.type.parse bound = .ok sentence) ∧
      (¬ SentenceType.Readable bound → kind.type.parse bound = .error .malformed)) ∧
    (∀ sentence, kind.type.parse bound = .ok sentence →
      (∀ column (slot : Slot column kind.type.columns),
        sentence.get slot = none ↔ bound.get slot = "") ∧
      (∀ column (slot : Slot column kind.type.columns) (value : column.kind.Value),
        sentence.get slot = some value
          ↔ bound.get slot ≠ "" ∧ column.kind.Gives (bound.get slot) value) ∧
      ∀ name capacity (slot : Slot (Column.text name capacity) kind.type.columns),
        bound.get slot ≠ "" →
          sentence.get slot = some (PaddedText.ofText capacity (bound.get slot))) ∧
    ∀ sentence : kind.type.Sentence,
      (∀ column (slot : Slot column kind.type.columns),
        (SentenceType.texts sentence)[slot.index]? = some (column.render (sentence.get slot)) ∧
          (kind.type.bind (.ofFields talker id (SentenceType.texts sentence))).get slot
            = column.render (sentence.get slot)) ∧
      ∀ capacity, (kind.type.writeFields talker sentence capacity).count = kind.type.fieldCount ∧
        (kind.type.writeFields talker sentence capacity).sink.written
          = (0x24 :: kind.type.bodyBytes talker sentence).take capacity := by
  intro raw bound
  have hbound : bound = bindTokens kind.type.columns fields := bindTokens_take kind.fieldCount_le _
  refine ⟨⟨rfl, hbound.trans (bindTokens_take (Nat.le_refl _) _).symm, fun column slot =>
      ⟨get_bindTokens slot raw.fields, ?_⟩⟩, ⟨?_, ?_⟩, ⟨?_, ?_, ?_⟩,
    ⟨fun _ => SentenceType.parse_eq_ok_iff, SentenceType.Readable.exists_parse_eq_ok,
      SentenceType.parse_eq_malformed⟩,
    fun sentence hparse => ?_, fun sentence =>
      ⟨fun column slot => ⟨Row.getElem?_toList _ sentence slot, ?_⟩, fun capacity => ⟨?_, ?_⟩⟩⟩
  · rw [hbound]
    exact get_bindTokens slot fields
  · exact UnparsedSentence.ofRaw?_eq_some_iff
  · exact Option.map_eq_none_iff.trans SentenceKind.ofId?_eq_none_iff
  · exact fun hid => if_pos hid
  · intro hid hmissing
    rw [SentenceType.bindStrict_of_id hid, if_pos hmissing]
  · intro hid hall
    rw [SentenceType.bindStrict_of_id hid, if_neg (Nat.not_lt.mpr hall)]
  · have hreads := SentenceType.parse_eq_ok_iff.mp hparse
    exact ⟨fun column slot => hreads.get_eq_none_iff slot,
      fun column slot value => hreads.get_eq_some_iff slot,
      fun name capacity slot => hreads.get_text slot⟩
  · rw [SentenceType.bind, SentenceKind.fields_ofFields_texts]
    exact SentenceType.get_bindTokens_texts sentence slot
  · rw [SentenceType.writeFields, FieldWriter.count_foldl_put, SentenceType.texts,
      Row.length_toList]
    exact Nat.zero_add _
  · rw [SentenceType.sink_writeFields, Sink.written_push_empty]

/-- The fields of a datum, the first of them too long for its column, and one field too many. -/
def datumFields : List String := ["WGS84 (G1762)", "", "0.5", "N", "", "", "1.5", "W84", "A"]

/-- A datum that is read, with a text, a number and an indicator; one that ends early, and one with a
word where a number should be. -/
theorem columns_bound_by_position_datum :
    let bound := SentenceKind.dtm.type.bind (.ofFields "GP" "DTM" datumFields)
    let early := RawSentence.ofFields "GP" "DTM" ["W84"]
    let worded := SentenceKind.dtm.type.bind (.ofFields "GP" "DTM" ["W84", "", "north"])
    let code : Slot (Column.text "local_datum_code" 5) SentenceKind.dtm.type.columns := .here
    let offset : Slot (Column.float "latitude_offset" .double 4) SentenceKind.dtm.type.columns :=
      .there (.there .here)
    let side : Slot (Column.indicator "latitude_offset_direction" .direction)
        SentenceKind.dtm.type.columns := .there (.there (.there .here))
    (SentenceType.Readable bound ∧ bound.get code ≠ "" ∧ ¬ SentenceType.Readable worded) ∧
    (SentenceKind.dtm.type.bindStrict (.ofFields "GP" "DTM" datumFields) = .ok bound ∧
      ∃ sentence, SentenceKind.dtm.type.parse bound = .ok sentence ∧
        sentence.get code = some (PaddedText.ofText 5 (bound.get code)) ∧
        sentence.get offset = some (⟨0x3FE0000000000000⟩ : Binary .double) ∧
        sentence.get side = some Direction.north) ∧
    SentenceKind.dtm.type.bindStrict early = .error (.fieldCountMismatch 8 1) ∧
    SentenceKind.rot.type.bindStrict early = .error .malformed ∧
    SentenceKind.dtm.type.parse worded = .error .malformed := by
  intro bound early worded code offset side
  have hreadable : SentenceType.Readable bound := by decide +kernel
  have hcode : bound.get code ≠ "" := by decide +kernel
  have hworded : ¬ SentenceType.Readable worded := by decide +kernel
  have hhalf : bound.get offset ≠ "" ∧
      Binary.ofText? .double (bound.get offset) = some ⟨0x3FE0000000000000⟩ := by decide +kernel
  have hnorth : bound.get side ≠ "" ∧ ∃ letter, (bound.get side).toList.head? = some letter ∧
      IndicatorSet.direction.ofLetter? letter = some Direction.north :=
    ⟨by decide +kernel, 'N', by decide +kernel, rfl⟩
  obtain ⟨-, -, ⟨-, -, hall⟩, ⟨-, hread, -⟩, hstored, -⟩ :=
    columns_bound_by_position .dtm "GP" "DTM" datumFields
  obtain ⟨-, -, ⟨-, hmissing, -⟩, -⟩ := columns_bound_by_position .dtm "GP" "DTM" ["W84"]
  obtain ⟨-, -, ⟨hother, -⟩, -⟩ := columns_bound_by_position .rot "GP" "DTM" ["W84"]
  obtain ⟨-, -, -, ⟨-, -, hrefused⟩, -⟩ :=
    columns_bound_by_position .dtm "GP" "DTM" ["W84", "", "north"]
  obtain ⟨sentence, hparse⟩ := hread hreadable
  obtain ⟨-, hgives, htext⟩ := hstored sentence hparse
  exact ⟨⟨hreadable, hcode, hworded⟩,
    ⟨hall rfl (by decide), sentence, hparse, htext _ _ code hcode, (hgives _ offset _).mpr hhalf,
      (hgives _ side _).mpr hnorth⟩,
    hmissing rfl (by decide), hother (by decide), hrefused hworded⟩

end VehicleLink
