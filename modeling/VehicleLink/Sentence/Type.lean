import VehicleLink.Bytes.Buffer
import VehicleLink.Sentence.Checksum
import VehicleLink.Sentence.Column
import VehicleLink.Row

/-!
# Sentence/Type — sentence types, and sentences as text

A sentence type is data: an identifier and a list of columns. A sentence of the type holds an
optional value for each column, and `SentenceType.write` writes it to a buffer of any size. What
does not fit is dropped, the checksum included, so a shorter buffer holds a leading part of the
sentence.
-/

namespace VehicleLink

/-- A kind of sentence. -/
structure SentenceType where
  id : String
  columns : List Column
deriving DecidableEq, Repr

namespace SentenceType

variable (type : SentenceType)

/-- The values of all columns. -/
abbrev Sentence : Type := Row Column.Value type.columns

/-- The sentence without any value. -/
def absent : type.Sentence := Row.tabulate (fun _ => none) type.columns

/-- The number of columns. -/
def fieldCount : Nat := type.columns.length

variable {type}

/-- The text of each column. -/
def texts (sentence : type.Sentence) : List String := sentence.toList Column.render

end SentenceType

/-- A sink in the middle of a sentence, and how many columns it has taken. -/
structure FieldWriter where
  sink : Sink
  count : Nat
deriving DecidableEq, Repr

namespace FieldWriter

/-- Writes a column's text, after a comma unless it is the first. -/
def put (writer : FieldWriter) (text : String) : FieldWriter where
  sink := (if 0 < writer.count then writer.sink.push [0x2C] else writer.sink).push (utf8 text)
  count := writer.count + 1

end FieldWriter

namespace SentenceType

variable (type : SentenceType)

/-- The start of a sentence and its columns, in a buffer of the given size. -/
def writeFields (talker : String) (sentence : type.Sentence) (capacity : Nat) : FieldWriter :=
  let sink := (Sink.empty capacity).push [0x24]
  let sink := ((sink.push (utf8 talker)).push (utf8 type.id)).push [0x2C]
  (texts sentence).foldl FieldWriter.put ⟨sink, 0⟩

/-- The bytes of a sentence, as far as they fit. The checksum is that of the bytes written so
far. -/
def bytes (talker : String) (sentence : type.Sentence) (capacity : Nat) : List UInt8 :=
  let sink := (type.writeFields talker sentence capacity).sink
  let (high, low) := Checksum.digits (Checksum.ofBytes (sink.written.drop 1))
  (((sink.push [0x2A]).push [high, low]).push [0x0D, 0x0A]).written

/-- Writes a sentence at the start of `buffer`. The answer is how many bytes were written, and the
buffer as it is afterwards. -/
def write (talker : String) (sentence : type.Sentence) (buffer : List UInt8) : Nat × List UInt8 :=
  let written := type.bytes talker sentence buffer.length
  (written.length, overwrite buffer 0 written)

end SentenceType

end VehicleLink
