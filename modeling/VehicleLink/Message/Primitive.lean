import VehicleLink.Bytes.LittleEndian
import VehicleLink.Number.Binary
import VehicleLink.Text.Padded

/-!
# Message/Primitive — the element types of message fields

There are eleven element types. Each has a size, a name in the message definitions, values of its
own Lean type, and one word per value: `Primitive.word` and `Primitive.ofWord` undo each other up to
the size of the word (`ofWord_word`, `word_ofWord`), so an element is written as the little-endian
bytes of its word. Several elements make a series, and a series of `char` reads as a padded text.
-/

namespace VehicleLink

/-- The element types of message fields. -/
inductive Primitive where
  | uint8 | int8 | uint16 | int16 | uint32 | int32 | uint64 | int64 | float | double | char
deriving DecidableEq, Repr

namespace Primitive

/-- Bytes of one element. -/
def size : Primitive → Nat
  | uint8 | int8 | char => 1
  | uint16 | int16 => 2
  | uint32 | int32 | float => 4
  | uint64 | int64 | double => 8

/-- The type's name in message definitions. -/
def typeName : Primitive → String
  | uint8 => "uint8_t"
  | int8 => "int8_t"
  | uint16 => "uint16_t"
  | int16 => "int16_t"
  | uint32 => "uint32_t"
  | int32 => "int32_t"
  | uint64 => "uint64_t"
  | int64 => "int64_t"
  | float => "float"
  | double => "double"
  | char => "char"

/-- An element. Floating-point elements are kept as the patterns they travel in. -/
def Value : Primitive → Type
  | uint8 | char => UInt8
  | int8 => Int8
  | uint16 => UInt16
  | int16 => Int16
  | uint32 => UInt32
  | int32 => Int32
  | uint64 => UInt64
  | int64 => Int64
  | float => Binary .single
  | double => Binary .double

/-- The bits of an element, as a number. -/
def word : (p : Primitive) → p.Value → Nat
  | uint8, (v : UInt8) => v.toNat
  | int8, (v : Int8) => v.toUInt8.toNat
  | uint16, (v : UInt16) => v.toNat
  | int16, (v : Int16) => v.toUInt16.toNat
  | uint32, (v : UInt32) => v.toNat
  | int32, (v : Int32) => v.toUInt32.toNat
  | uint64, (v : UInt64) => v.toNat
  | int64, (v : Int64) => v.toUInt64.toNat
  | float, (v : Binary .single) => v.bits.toNat
  | double, (v : Binary .double) => v.bits.toNat
  | char, (v : UInt8) => v.toNat

/-- The element with the low bits of `w`. -/
def ofWord : (p : Primitive) → (w : Nat) → p.Value
  | uint8, w => UInt8.ofNat w
  | int8, w => (UInt8.ofNat w).toInt8
  | uint16, w => UInt16.ofNat w
  | int16, w => (UInt16.ofNat w).toInt16
  | uint32, w => UInt32.ofNat w
  | int32, w => (UInt32.ofNat w).toInt32
  | uint64, w => UInt64.ofNat w
  | int64, w => (UInt64.ofNat w).toInt64
  | float, w => Binary.mk (BitVec.ofNat _ w)
  | double, w => Binary.mk (BitVec.ofNat _ w)
  | char, w => UInt8.ofNat w

theorem ofWord_word : (p : Primitive) → (v : p.Value) → p.ofWord (p.word v) = v
  | uint8, _ | char, _ => UInt8.ofNat_toNat
  | int8, (v : Int8) => by show (UInt8.ofNat v.toUInt8.toNat).toInt8 = v; simp
  | uint16, _ => UInt16.ofNat_toNat
  | int16, (v : Int16) => by show (UInt16.ofNat v.toUInt16.toNat).toInt16 = v; simp
  | uint32, _ => UInt32.ofNat_toNat
  | int32, (v : Int32) => by show (UInt32.ofNat v.toUInt32.toNat).toInt32 = v; simp
  | uint64, _ => UInt64.ofNat_toNat
  | int64, (v : Int64) => by show (UInt64.ofNat v.toUInt64.toNat).toInt64 = v; simp
  | float, (v : Binary .single) => by show Binary.mk (BitVec.ofNat _ v.bits.toNat) = v; simp
  | double, (v : Binary .double) => by show Binary.mk (BitVec.ofNat _ v.bits.toNat) = v; simp

theorem word_ofWord : (p : Primitive) → (w : Nat) → p.word (p.ofWord w) = w % Nat.pow 256 p.size
  | uint8, _ | int8, _ | char, _ => UInt8.toNat_ofNat'
  | uint16, _ | int16, _ => UInt16.toNat_ofNat'
  | uint32, _ | int32, _ => UInt32.toNat_ofNat'
  | uint64, _ | int64, _ => UInt64.toNat_ofNat'
  | float, _ | double, _ => BitVec.toNat_ofNat _ _

/-- The bytes of an element. -/
def encode (p : Primitive) (v : p.Value) : List UInt8 := littleEndian p.size (p.word v)

/-- The element that the bytes spell. -/
def decode (p : Primitive) (bytes : List UInt8) : p.Value := p.ofWord (ofLittleEndian bytes)

theorem decode_encode (p : Primitive) (v : p.Value) : p.decode (p.encode v) = v := by
  rw [decode, encode, ofLittleEndian_littleEndian, ← word_ofWord, ofWord_word, ofWord_word]

theorem encode_decode (p : Primitive) {bytes : List UInt8} (h : bytes.length = p.size) :
    p.encode (p.decode bytes) = bytes := by
  have hlt : ofLittleEndian bytes % Nat.pow 256 p.size = ofLittleEndian bytes := by
    rw [← ofLittleEndian_littleEndian, ← h, littleEndian_ofLittleEndian]
  rw [decode, encode, word_ofWord, hlt, ← h, littleEndian_ofLittleEndian]

/-! ## Series -/

/-- Several elements of one type. -/
abbrev Series (p : Primitive) (count : Nat) : Type := Vector p.Value count

/-- The bytes of a series: those of its elements, one after the other. -/
def encodeSeries (p : Primitive) {count : Nat} (series : p.Series count) : List UInt8 :=
  series.toList.flatMap p.encode

/-- The first `count` elements that the bytes spell. -/
def decodeList (p : Primitive) : (count : Nat) → (bytes : List UInt8) → List p.Value
  | 0, _ => []
  | count + 1, bytes =>
    p.decode (bytes.take p.size) :: decodeList p count (bytes.drop p.size)

@[simp] theorem length_decodeList (p : Primitive) (count : Nat) (bytes : List UInt8) :
    (p.decodeList count bytes).length = count := by
  induction count generalizing bytes with
  | zero => rfl
  | succ count ih => simp [decodeList, ih]

/-- The series of the first `count` elements that the bytes spell. -/
def decodeSeries (p : Primitive) (count : Nat) (bytes : List UInt8) : p.Series count :=
  ⟨(p.decodeList count bytes).toArray, by simp⟩

/-- The text that a series of characters holds. -/
def textOfSeries {count : Nat} (series : char.Series count) : PaddedText count :=
  .ofBytes count series.toList

/-- The series of characters that holds a text. -/
def seriesOfText {count : Nat} (padded : PaddedText count) : char.Series count :=
  ⟨padded.bytes.toArray, padded.length_bytes⟩

end Primitive

end VehicleLink
