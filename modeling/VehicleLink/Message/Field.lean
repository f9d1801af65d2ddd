import VehicleLink.Message.Primitive
import VehicleLink.Row

/-!
# Message/Field — fields, and the layout of a list of them

A field is a name, an element type and a length; length zero means a single element instead of a
series. Fields are laid out back to back in the order of their list, with no padding, so the size of
a layout is the sum of the sizes (`layoutSize`). `isWireOrdered` checks that element sizes never
grow from one field to the next.

Fields are read in the order in which they are written. A payload may break off anywhere: whatever
is missing counts as zero (`PayloadReader.take`).
-/

namespace VehicleLink

/-- A field of a message. Length zero means a single element, any other length a series. -/
structure Field where
  name : String
  primitive : Primitive
  arrayLength : Nat
deriving DecidableEq, Repr

namespace Field

/-- The number of elements. -/
def count : Field → Nat
  | ⟨_, _, 0⟩ => 1
  | ⟨_, _, n + 1⟩ => n + 1

/-- Bytes of the whole field. -/
def size (field : Field) : Nat := field.primitive.size * field.count

/-- What the field holds. -/
def Value : Field → Type
  | ⟨_, p, 0⟩ => p.Value
  | ⟨_, p, n + 1⟩ => p.Series (n + 1)

/-- The bytes of the field's value. -/
def encode : (field : Field) → (value : field.Value) → List UInt8
  | ⟨_, p, 0⟩, value => p.encode value
  | ⟨_, p, _ + 1⟩, value => p.encodeSeries value

/-- The value that the field's bytes spell. -/
def decode : (field : Field) → (bytes : List UInt8) → field.Value
  | ⟨_, p, 0⟩, bytes => p.decode bytes
  | ⟨_, p, n + 1⟩, bytes => p.decodeSeries (n + 1) bytes

/-- The value whose bytes are all zero. -/
def zero (field : Field) : field.Value := field.decode (List.replicate field.size 0)

end Field

/-- Bytes of a list of fields. -/
def layoutSize : (fields : List Field) → Nat
  | [] => 0
  | field :: fields => field.size + layoutSize fields

/-- Whether no field has larger elements than the field before it. -/
def isWireOrdered : (fields : List Field) → Bool
  | a :: b :: fields => decide (b.primitive.size ≤ a.primitive.size) && isWireOrdered (b :: fields)
  | _ => true

/-! ## Writing -/

/-- The bytes of all fields, in order. -/
def encodeRow {fields : List Field} (row : Row Field.Value fields) : List UInt8 :=
  (row.toList Field.encode).flatten

/-- How many bytes are written after each field, when `written` were there before. -/
def positions (written : Nat) : {fields : List Field} → Row Field.Value fields → List Nat
  | _, .nil => []
  | field :: _, .cons value rest =>
    let position := written + (field.encode value).length
    position :: positions position rest

/-! ## Reading -/

/-- The part of a payload that is still to be read. -/
structure PayloadReader where
  remaining : List UInt8
deriving DecidableEq, Repr

namespace PayloadReader

/-- Whether nothing is left of the payload. -/
def isEmpty (reader : PayloadReader) : Bool := reader.remaining.isEmpty

/-- Reads a field. Bytes that the payload leaves out are zero. -/
def take (reader : PayloadReader) (field : Field) : field.Value × PayloadReader :=
  (field.decode ((reader.remaining.take field.size).rightpad field.size 0),
    ⟨reader.remaining.drop field.size⟩)

end PayloadReader

/-- Reads all fields, in order. -/
def decodeRow (reader : PayloadReader) : (fields : List Field) → Row Field.Value fields
  | [] => .nil
  | field :: fields =>
    let (value, reader) := reader.take field
    .cons value (decodeRow reader fields)

/-- Whether the payload is used up after each field. -/
def drained (reader : PayloadReader) : (fields : List Field) → List Bool
  | [] => []
  | field :: fields =>
    let (_, reader) := reader.take field
    reader.isEmpty :: drained reader fields

end VehicleLink
