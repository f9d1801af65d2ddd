import VehicleLink.Number.Decimal
import VehicleLink.Number.Integer
import VehicleLink.Sentence.Indicator
import VehicleLink.Text.Padded

/-!
# Sentence/Column — the columns of sentences and their text

A column has a kind, which says what it holds, and a format for numbers: decimal places and a least
width. Absent values are written as nothing at all, and an empty token reads as absent
(`Column.parse`).

Reading and storing are two steps, because a text column reads as the token itself, however long it
is; storing then cuts it to the column's capacity (`ColumnKind.store`).
-/

namespace VehicleLink

/-- What a column holds. -/
inductive ColumnKind where
  | float (format : BinaryFormat)
  | integer (type : IntegerType)
  | character
  | text (capacity : Nat)
  | indicator (set : IndicatorSet)
deriving DecidableEq, Repr

namespace ColumnKind

/-- A stored value. -/
def Value : ColumnKind → Type
  | float format => Binary format
  | integer type => type.Value
  | character => Char
  | text capacity => PaddedText capacity
  | indicator set => set.Member

/-- A value as it is read from a token. -/
def Reading : ColumnKind → Type
  | float format => Binary format
  | integer type => type.Value
  | character => Char
  | text _ => String
  | indicator set => set.Member

/-- The value that a reading is kept as. -/
def store : (kind : ColumnKind) → (reading : kind.Reading) → kind.Value
  | float _, reading => reading
  | integer _, reading => reading
  | character, reading => reading
  | text capacity, reading => PaddedText.ofText capacity reading
  | indicator _, reading => reading

/-- The text of a value. Places and width are for numbers only. -/
def render : (kind : ColumnKind) → (places width : Nat) → (value : kind.Value) → String
  | float _, places, width, value => Binary.fixed places width value
  | integer _, _, width, value => IntegerType.text width value.val
  | character, _, _, value => String.ofList [value]
  | text _, _, _, value => PaddedText.text value
  | indicator _, _, _, value => String.ofList [IndicatorSet.letter value]

/-- The reading of a token that is not empty. One-character kinds look at the first character and
ignore the rest. -/
def read? : (kind : ColumnKind) → (token : String) → Option kind.Reading
  | float format, token => Binary.ofText? format token
  | integer type, token => type.ofText? token
  | character, token => token.toList.head?
  | text _, token => some token
  | indicator set, token => token.toList.head?.bind fun c => set.ofLetter? c

/-- The reading of a token, absent if the token is empty. -/
def parse (kind : ColumnKind) (token : String) : Except LinkError (Option kind.Reading) :=
  if token.isEmpty then .ok none
  else
    match kind.read? token with
    | some reading => .ok (some reading)
    | none => .error .malformed

end ColumnKind

/-- A column of a sentence. -/
structure Column where
  name : String
  kind : ColumnKind
  places : Nat
  width : Nat
deriving DecidableEq, Repr

namespace Column

/-- What a sentence holds in the column. -/
abbrev Value (column : Column) : Type := Option column.kind.Value

/-- The text of the column. -/
def render (column : Column) : (value : column.Value) → String
  | some value => column.kind.render column.places column.width value
  | none => ""

/-- The value that a token gives the column. -/
def parse (column : Column) (token : String) : Except LinkError column.Value :=
  (column.kind.parse token).map fun reading => reading.map column.kind.store

end Column

end VehicleLink
