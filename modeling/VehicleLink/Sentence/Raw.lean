import VehicleLink.Sentence.Catalogue

/-!
# Sentence/Raw — received sentences, before and while their fields are read

A `RawSentence` is what a receiver delivers: who sent it, its identifier, and the texts of its
fields. Binding gives each column of a type the text at its place, and an empty text where the
sentence ends early; nothing is read yet. `SentenceType.parse` reads all columns, and fails if one
of them does.
-/

namespace VehicleLink

/-- The most fields that a received sentence keeps. -/
def maxFields : Nat := 32

/-- A sentence as it was received. -/
structure RawSentence where
  talker : String
  id : String
  fields : List String
  length_le : fields.length ≤ maxFields
deriving DecidableEq

/-- The sentence with the first fields of a list, as many as are kept. -/
def RawSentence.ofFields (talker id : String) (fields : List String) : RawSentence :=
  ⟨talker, id, fields.take maxFields, List.length_take_le ..⟩

/-- One token for each column. -/
def bindTokens : (columns : List Column) → (tokens : List String) → Row (fun _ => String) columns
  | [], _ => .nil
  | _ :: columns, tokens => .cons (tokens.headD "") (bindTokens columns tokens.tail)

namespace SentenceType

variable (type : SentenceType)

/-- A sentence of the type whose columns are still tokens. -/
abbrev Unparsed : Type := Row (fun _ : Column => String) type.columns

/-- The fields of a sentence, taken as those of the type. -/
def bind (raw : RawSentence) : type.Unparsed := bindTokens type.columns raw.fields

/-- The fields of a sentence that must be of the type and have all its fields. -/
def bindStrict (raw : RawSentence) : Except LinkError type.Unparsed :=
  if raw.id ≠ type.id then .error .malformed
  else if raw.fields.length < type.fieldCount then
    .error (.fieldCountMismatch type.fieldCount raw.fields.length)
  else .ok (type.bind raw)

/-- The values of all columns. -/
def parse (tokens : type.Unparsed) : Except LinkError type.Sentence :=
  Row.mapM Column.parse tokens

end SentenceType

/-- A received sentence of one of the catalogue's types, with its columns still tokens. -/
structure UnparsedSentence where
  kind : SentenceKind
  tokens : kind.type.Unparsed

/-- The received sentence as one of the catalogue's types, if its identifier is known. -/
def UnparsedSentence.ofRaw? (raw : RawSentence) : Option UnparsedSentence :=
  (SentenceKind.ofId? raw.id).map fun kind => ⟨kind, kind.type.bind raw⟩

end VehicleLink
