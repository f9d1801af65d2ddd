import VehicleLink.Number.Rounding

/-!
# Number/Binary — binary floating point on bit patterns

A `Binary format` is a bit pattern; its meaning is a `Datum`, where finite values are exact
rationals. Every operation is exact arithmetic on `Datum` followed by one rounding, so nothing here
depends on a machine's floating point.

The magnitudes of a format are counted by their `code`, the pattern without its sign bit. Codes
are in the order of the values, each value is a whole number of `BinaryFormat.units`, and rounding
finds the code by one call of `nearestQuot` at the right power of two (`BinaryFormat.round`).
Rounding past the largest finite code reaches the code of infinity, with no case of its own.
-/

namespace VehicleLink

/-- A binary format: how many bits hold the exponent and how many the fraction. -/
structure BinaryFormat where
  exponentBits : Nat
  fractionBits : Nat
deriving DecidableEq, Repr

namespace BinaryFormat

/-- The 32-bit format. -/
def single : BinaryFormat := ⟨8, 23⟩

/-- The 64-bit format. -/
def double : BinaryFormat := ⟨11, 52⟩

variable (format : BinaryFormat)

/-- Bits below the sign. -/
def magnitudeBits : Nat := format.exponentBits + format.fractionBits

/-- All bits, the sign included. -/
def width : Nat := format.magnitudeBits + 1

/-- The code of infinity: all exponent bits, no fraction bit. -/
def infinity : Nat := Nat.pow 2 format.magnitudeBits - Nat.pow 2 format.fractionBits

/-- The code of the quiet not-a-number that operations produce. -/
def quietNaN : Nat := format.infinity + Nat.pow 2 (format.fractionBits - 1)

/-- How many of the least positive value make one. -/
def scale : Nat := Nat.pow 2 (Nat.pow 2 (format.exponentBits - 1) - 2 + format.fractionBits)

/-- The value of a finite code, counted in least positive values. -/
def units (code : Nat) : Nat :=
  let exponent := code / Nat.pow 2 format.fractionBits
  let fraction := code % Nat.pow 2 format.fractionBits
  if exponent = 0 then fraction
  else (Nat.pow 2 format.fractionBits + fraction) * Nat.pow 2 (exponent - 1)

/-- The value of a finite code. -/
def magnitude (code : Nat) : Rat := mkRat (format.units code) format.scale

/-- The code of the value nearest to `q ≥ 0`, the even code of two that are equally near. Values
too large for the format have the code of infinity. -/
def round (q : Rat) : Nat :=
  let scaled := q * (format.scale : Rat)
  let binade := scaled.floor.toNat.log2 - format.fractionBits
  let steps := nearestQuot scaled.num.toNat (scaled.den * Nat.pow 2 binade)
  min (binade * Nat.pow 2 format.fractionBits + steps) format.infinity

end BinaryFormat

/-- What a bit pattern stands for. Zero has a sign of its own. -/
inductive Datum where
  | nan
  | infinite (negative : Bool)
  | finite (negative : Bool) (magnitude : Rat)
deriving DecidableEq

/-- A bit pattern of a binary format. -/
structure Binary (format : BinaryFormat) where
  bits : BitVec format.width
deriving DecidableEq

namespace Datum

/-- A finite value with the sign of `q`; an exact zero is positive. -/
def ofRat (q : Rat) : Datum := if q < 0 then finite true (-q) else finite false q

/-- The number that `negative` and `magnitude` stand for. -/
def signed (negative : Bool) (magnitude : Rat) : Rat := if negative then -magnitude else magnitude

/-- The opposite sign. -/
def neg : Datum → Datum
  | nan => nan
  | infinite s => infinite !s
  | finite s x => finite (!s) x

/-- Exact sum. Opposite infinities have none, and a zero sum is negative only if both sides are. -/
def add : Datum → Datum → Datum
  | nan, _ => nan
  | _, nan => nan
  | infinite s, infinite t => if s = t then infinite s else nan
  | infinite s, finite _ _ => infinite s
  | finite _ _, infinite t => infinite t
  | finite s x, finite t y =>
    let sum := signed s x + signed t y
    if sum = 0 then finite (s && t) 0 else ofRat sum

/-- Exact product. Zero times infinity has none. -/
def mul : Datum → Datum → Datum
  | nan, _ => nan
  | _, nan => nan
  | infinite s, infinite t => infinite (s != t)
  | infinite s, finite t y => if y = 0 then nan else infinite (s != t)
  | finite s x, infinite t => if x = 0 then nan else infinite (s != t)
  | finite s x, finite t y => finite (s != t) (x * y)

/-- Exact quotient. A zero divisor gives infinity, or nothing under zero. -/
def div : Datum → Datum → Datum
  | nan, _ => nan
  | _, nan => nan
  | infinite _, infinite _ => nan
  | infinite s, finite t _ => infinite (s != t)
  | finite s _, infinite t => finite (s != t) 0
  | finite s x, finite t y =>
    if y = 0 then (if x = 0 then nan else infinite (s != t)) else finite (s != t) (x / y)

/-- Remainder of the quotient cut toward zero; it has the sign of the dividend. -/
def rem : Datum → Datum → Datum
  | nan, _ => nan
  | _, nan => nan
  | infinite _, _ => nan
  | finite s x, infinite _ => finite s x
  | finite s x, finite _ y => if y = 0 then nan else finite s (x - y * ((x / y).floor : Rat))

end Datum

namespace Binary

variable {format : BinaryFormat}

/-- Whether the sign bit is set. -/
def signBit (x : Binary format) : Bool := decide (Nat.pow 2 format.magnitudeBits ≤ x.bits.toNat)

/-- The pattern without its sign bit. -/
def code (x : Binary format) : Nat := x.bits.toNat % Nat.pow 2 format.magnitudeBits

/-- The pattern with the given sign and code. -/
def ofCode (negative : Bool) (code : Nat) : Binary format :=
  ⟨BitVec.ofNat format.width ((if negative then Nat.pow 2 format.magnitudeBits else 0) + code)⟩

/-- What the pattern stands for. -/
def datum (x : Binary format) : Datum :=
  if x.code < format.infinity then .finite x.signBit (format.magnitude x.code)
  else if x.code = format.infinity then .infinite x.signBit
  else .nan

/-- The pattern of a datum, rounded to the format. -/
def ofDatum : Datum → Binary format
  | .nan => ofCode false format.quietNaN
  | .infinite negative => ofCode negative format.infinity
  | .finite negative magnitude => ofCode negative (format.round magnitude)

/-- The pattern nearest to `q`. -/
def ofRat (q : Rat) : Binary format := ofDatum (.ofRat q)

/-- The pattern nearest to `i`. -/
def ofInt (i : Int) : Binary format := ofRat (i : Rat)

instance : Neg (Binary format) := ⟨fun x => ofDatum x.datum.neg⟩
instance : Add (Binary format) := ⟨fun x y => ofDatum (x.datum.add y.datum)⟩
instance : Sub (Binary format) := ⟨fun x y => ofDatum (x.datum.add y.datum.neg)⟩
instance : Mul (Binary format) := ⟨fun x y => ofDatum (x.datum.mul y.datum)⟩
instance : Div (Binary format) := ⟨fun x y => ofDatum (x.datum.div y.datum)⟩
instance : Mod (Binary format) := ⟨fun x y => ofDatum (x.datum.rem y.datum)⟩

/-- Whether `x < 0`. Neither zero is, and neither is a pattern that is not a number. -/
def isBelowZero (x : Binary format) : Bool :=
  match x.datum with
  | .nan => false
  | .infinite negative => negative
  | .finite negative magnitude => negative && magnitude ≠ 0

/-- Whether `x` is not a number. -/
def isNaN (x : Binary format) : Bool := decide (format.infinity < x.code)

/-- Whether `0 ≤ x`. Both zeros are, and a pattern that is not a number is not. -/
def isAtLeastZero (x : Binary format) : Bool := !x.isNaN && !x.isBelowZero

/-- The whole part of `x`, moved into `[least, greatest]`; zero if `x` is not a number. -/
def truncate (least greatest : Int) (x : Binary format) : Int :=
  match x.datum with
  | .nan => 0
  | .infinite negative => if negative then least else greatest
  | .finite negative magnitude =>
    max least (min greatest (if negative then -magnitude.floor else magnitude.floor))

end Binary

end VehicleLink
