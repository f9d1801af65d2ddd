import VehicleLink.Proofs.Message.Crc
import VehicleLink.Proofs.Text.Utf8

/-!
# Proofs/Message/Rolling — one checksum, however it is computed

`Crc.bitwise` is the published checksum, bit by bit.  It can be computed by a table with an entry for
each byte (`tableStep`), and by shifts of a single byte without any table (`Crc.step`).  All three
agree on every byte and in every state, and so on every list of bytes, however it is cut into calls.
So a frame's checksum is the rolling one, whoever computes it, and the byte that stands for a message
definition is folded from the published one (`checksums_agree`).

The engine is linearity: eight shifts of a word are those of its low byte, and its high byte moved
down (`repeat_shiftOut_eight`).
-/

namespace VehicleLink.Crc

/-! ## One byte -/

/-- The entry of a byte in the table: eight shifts of the byte alone. -/
def table (byte : UInt8) : UInt16 := Nat.repeat shiftOut 8 byte.toUInt16

/-- Adds a byte: looks up the low half together with it, and moves the high half down. -/
def tableStep (crc : UInt16) (byte : UInt8) : UInt16 :=
  (crc >>> 8) ^^^ table (byte ^^^ crc.toUInt8)

/-- **Eight shifts of a word are those of its low byte, and its high byte moved down.** -/
theorem repeat_shiftOut_eight (crc : UInt16) :
    Nat.repeat shiftOut 8 crc = (crc >>> 8) ^^^ table crc.toUInt8 := by
  have hhigh : (crc >>> 8).toUInt8.toUInt16 = crc >>> 8 := by
    have hlt := crc.toNat_lt
    rw [← UInt16.toNat_inj, UInt8.toNat_toUInt16, UInt16.toNat_toUInt8, UInt16.toNat_shiftRight,
      Nat.shiftRight_eq_div_pow]
    exact Nat.mod_eq_of_lt (Nat.div_lt_of_lt_mul hlt)
  calc Nat.repeat shiftOut 8 crc
      = Nat.repeat shiftOut 8 (window crc.toUInt8 (crc >>> 8).toUInt8) := by rw [window_halves]
    _ = table crc.toUInt8 ^^^ (crc >>> 8).toUInt8.toUInt16 := by
      rw [window, repeat_shiftOut_xor, repeat_shiftOut_high]
      rfl
    _ = (crc >>> 8) ^^^ table crc.toUInt8 := by rw [hhigh, UInt16.xor_comm]

theorem bitwiseStep_eq_tableStep (crc : UInt16) (byte : UInt8) :
    bitwiseStep crc byte = tableStep crc byte := by
  have hlow : (crc ^^^ byte.toUInt16).toUInt8 = byte ^^^ crc.toUInt8 := by
    rw [UInt16.toUInt8_xor, UInt8.toUInt8_toUInt16, UInt8.xor_comm]
  have hhigh : (crc ^^^ byte.toUInt16) >>> 8 = crc >>> 8 := by
    have hbyte : byte.toUInt16 >>> 8 = 0 := by
      rw [← UInt16.toNat_inj, UInt16.toNat_shiftRight, UInt8.toNat_toUInt16,
        Nat.shiftRight_eq_div_pow]
      exact Nat.div_eq_of_lt byte.toNat_lt
    rw [UInt16.shiftRight_xor, hbyte, UInt16.xor_zero]
  rw [bitwiseStep, repeat_shiftOut_eight, hlow, hhigh, tableStep]

/-- An entry of the table is made by shifts.  The polynomial brings a bit that is shifted out back at
three places, and none of them is shifted out again within four shifts, so a nibble at a time goes. -/
theorem table_eq_shifts (byte : UInt8) :
    table byte = ((byte ^^^ (byte <<< 4)).toUInt16 <<< 8) ^^^
      ((byte ^^^ (byte <<< 4)).toUInt16 <<< 3) ^^^ ((byte ^^^ (byte <<< 4)).toUInt16 >>> 4) := by
  have hall : ∀ n : Fin 256,
      table (.ofNat n) = ((UInt8.ofNat n ^^^ (UInt8.ofNat n <<< 4)).toUInt16 <<< 8) ^^^
        ((UInt8.ofNat n ^^^ (UInt8.ofNat n <<< 4)).toUInt16 <<< 3) ^^^
        ((UInt8.ofNat n ^^^ (UInt8.ofNat n <<< 4)).toUInt16 >>> 4) := by
    decide +kernel
  have hbyte := hall ⟨byte.toNat, byte.toNat_lt⟩
  rwa [UInt8.ofNat_toNat] at hbyte

theorem step_eq_tableStep (crc : UInt16) (byte : UInt8) : step crc byte = tableStep crc byte := by
  rw [step, tableStep, table_eq_shifts, ← UInt16.xor_assoc, ← UInt16.xor_assoc]

/-! ## Lists of bytes -/

theorem foldl_tableStep (crc : UInt16) (bytes : List UInt8) :
    bytes.foldl tableStep crc = bitwise crc bytes := by
  have hstep : tableStep = bitwiseStep := by
    funext crc byte
    rw [bitwiseStep_eq_tableStep]
  rw [bitwise, hstep]

theorem accumulate_eq_bitwise (crc : UInt16) (bytes : List UInt8) :
    accumulate crc bytes = bitwise crc bytes := by
  have hstep : step = tableStep := by
    funext crc byte
    rw [step_eq_tableStep]
  rw [accumulate, hstep, foldl_tableStep]

/-- What a checksum is extended by in one call: a byte, some bytes, or a text. -/
inductive Part where
  | one (byte : UInt8)
  | many (bytes : List UInt8)
  | spelled (text : String)

namespace Part

/-- The bytes of a part. -/
def toBytes : Part → List UInt8
  | one byte => [byte]
  | many bytes => bytes
  | spelled text => utf8 text

/-- The checksum after another part. -/
def addTo (crc : UInt16) : Part → UInt16
  | one byte => step crc byte
  | many bytes => accumulate crc bytes
  | spelled text => accumulate crc (utf8 text)

theorem addTo_eq_bitwise (crc : UInt16) (part : Part) :
    part.addTo crc = bitwise crc part.toBytes := by
  cases part with
  | one byte => exact accumulate_eq_bitwise crc [byte]
  | many bytes => exact accumulate_eq_bitwise crc bytes
  | spelled text => exact accumulate_eq_bitwise crc (utf8 text)

/-- **However bytes are cut into parts, the checksum is that of all of them.** -/
theorem foldl_addTo (crc : UInt16) (parts : List Part) :
    parts.foldl addTo crc = bitwise crc (parts.flatMap toBytes) := by
  induction parts generalizing crc with
  | nil => rfl
  | cons part parts ih =>
    rw [List.foldl_cons, ih, List.flatMap_cons, bitwise_append, addTo_eq_bitwise]

end Part

/-! ## Digests -/

/-- Something that computes a checksum piece by piece, in states of its own. -/
structure Digest where
  State : Type
  init : State
  update : (state : State) → (bytes : List UInt8) → State
  value : (state : State) → UInt16

namespace Digest

/-- Whether a digest computes the published checksum: that of all the bytes it is given. -/
def IsPublished (digest : Digest) : Prop :=
  ∀ pieces : List (List UInt8),
    digest.value (pieces.foldl digest.update digest.init) = bitwise 0xFFFF pieces.flatten

/-- The checksum of a frame by a digest, which is given what is covered, and then the byte that
stands for the message definition. -/
def ofFrame (digest : Digest) (covered : List UInt8) (extra : UInt8) : UInt16 :=
  digest.value (digest.update (digest.update digest.init covered) [extra])

theorem IsPublished.ofFrame_eq {digest : Digest} (h : digest.IsPublished) (covered : List UInt8)
    (extra : UInt8) : digest.ofFrame covered extra = frameChecksum covered extra := by
  have hpieces := h [covered, [extra]]
  rwa [List.flatten_cons, List.flatten_singleton] at hpieces

/-- The digest that goes by the table. -/
def tabulated : Digest where
  State := UInt16
  init := start
  update crc bytes := bytes.foldl tableStep crc
  value crc := crc

theorem isPublished_tabulated : tabulated.IsPublished := by
  intro pieces
  have hcalls : pieces.foldl tabulated.update tabulated.init
      = pieces.flatten.foldl tableStep start := List.foldl_flatten.symm
  rw [hcalls, foldl_tableStep]
  rfl

end Digest

/-! ## Frames and definitions -/

theorem frameChecksum_eq_step (covered : List UInt8) (extra : UInt8) :
    frameChecksum covered extra = step (accumulate start covered) extra := by
  rw [frameChecksum, ← accumulate_eq_bitwise, accumulate_append]
  rfl

/-- What a message definition's checksum is taken of: its name, and the element type and the name of
each field, with a blank behind each of them, and behind a series its length as one byte. -/
def definitionBytes (name : String) (fields : List Field) : List UInt8 :=
  utf8 (name ++ " ") ++ fields.flatMap fun field =>
    utf8 (field.primitive.typeName ++ " " ++ field.name ++ " ") ++
      if 0 < field.arrayLength then [UInt8.ofNat field.arrayLength] else []

theorem signature_eq (field : Field) :
    field.signature = utf8 (field.primitive.typeName ++ " " ++ field.name ++ " ") ++
      if 0 < field.arrayLength then [UInt8.ofNat field.arrayLength] else [] := by
  have hblank : utf8 " " = [0x20] := rfl
  rw [Field.signature, utf8_append, utf8_append, utf8_append, hblank]
  rcases Nat.eq_zero_or_pos field.arrayLength with hzero | hpos
  · rw [if_pos hzero, if_neg (by omega)]
  · rw [if_neg (by omega), if_pos hpos]

theorem crcExtra_eq_fold (name : String) (fields : List Field) :
    let crc := bitwise 0xFFFF (definitionBytes name fields)
    crcExtra name fields = UInt8.ofNat (crc.toNat % 256) ^^^ UInt8.ofNat (crc.toNat / 256) := by
  intro crc
  have hbytes : utf8 name ++ [0x20] ++ fields.flatMap Field.signature
      = definitionBytes name fields := by
    have hblank : utf8 " " = [0x20] := rfl
    rw [definitionBytes, utf8_append, hblank, funext signature_eq]
  have hlow : crc.toUInt8 = UInt8.ofNat (crc.toNat % 256) := by
    rw [← UInt8.toNat_inj, UInt16.toNat_toUInt8, UInt8.toNat_ofNat', Nat.mod_mod]
  have hhigh : (crc >>> 8).toUInt8 = UInt8.ofNat (crc.toNat / 256) := by
    rw [← UInt8.toNat_inj, UInt16.toNat_toUInt8, UInt16.toNat_shiftRight, UInt8.toNat_ofNat',
      Nat.shiftRight_eq_div_pow]
    rfl
  rw [crcExtra, accumulate_eq_bitwise, hbytes, ← hlow, ← hhigh]
  rfl

/-- **Every checksum is the published one.**

From any state, extending a checksum byte by byte by shifts, table look-ups or single bits gives the
same, and so does any way of cutting the bytes into calls.  The checksum of a frame is the rolling one
of what is covered, and then of the byte that stands for the message definition; a digest that
computes the published checksum gives the same in two calls.  The byte for a definition is the
exclusive or of the two halves of the published checksum of the definition. -/
theorem checksums_agree :
    (∀ (crc : UInt16) (bytes : List UInt8), accumulate crc bytes = bitwise crc bytes ∧
      bytes.foldl tableStep crc = bitwise crc bytes) ∧
    (∀ (crc : UInt16) (parts : List Part),
      parts.foldl Part.addTo crc = bitwise crc (parts.flatMap Part.toBytes)) ∧
    (∀ (covered : List UInt8) (extra : UInt8),
      frameChecksum covered extra = accumulate 0xFFFF (covered ++ [extra]) ∧
        frameChecksum covered extra = step (accumulate 0xFFFF covered) extra) ∧
    (∀ digest : Digest, digest.IsPublished → ∀ (covered : List UInt8) (extra : UInt8),
      digest.ofFrame covered extra = step (accumulate 0xFFFF covered) extra) ∧
    ∀ (name : String) (fields : List Field),
      let crc := bitwise 0xFFFF (definitionBytes name fields)
      crcExtra name fields = UInt8.ofNat (crc.toNat % 256) ^^^ UInt8.ofNat (crc.toNat / 256) := by
  refine ⟨fun crc bytes => ⟨accumulate_eq_bitwise crc bytes, foldl_tableStep crc bytes⟩,
    Part.foldl_addTo, fun covered extra => ⟨?_, frameChecksum_eq_step covered extra⟩,
    fun digest hpublished covered extra => ?_, crcExtra_eq_fold⟩
  · exact (accumulate_eq_bitwise start (covered ++ [extra])).symm
  · rw [hpublished.ofFrame_eq, frameChecksum_eq_step]
    rfl

/-- The check value that is published with the checksum. -/
example : accumulate 0xFFFF (utf8 "123456789") = 0x6F91 := by decide +kernel

/-- A heartbeat's frame by the digest that goes by the table. -/
theorem checksums_agree_heartbeat :
    let covered : List UInt8 := [6, 0, 0, 0, 1, 1, 0, 0, 0, 0, 0, 0, 0, 2, 3]
    Digest.tabulated.IsPublished ∧
      Digest.tabulated.ofFrame covered 50 = step (accumulate 0xFFFF covered) 50 ∧
      step (accumulate 0xFFFF covered) 50 = 0x3180 := by
  intro covered
  obtain ⟨-, -, -, hdigest, -⟩ := checksums_agree
  exact ⟨Digest.isPublished_tabulated,
    hdigest Digest.tabulated Digest.isPublished_tabulated covered 50, by decide +kernel⟩

end VehicleLink.Crc
