import VehicleLink.Number.Binary

/-!
# Number/Decimal — decimal text of binary numbers

`Binary.fixed` prints a number with a given count of decimal places: the exact value rounded once,
ties to even, and filled with zeros up to a least width that does not count the sign.
`Binary.ofText?` reads a number: an optional sign, then either digits with an optional point and
exponent or one of the words for infinity and not-a-number, and rounds once to the format asked
for.
-/

namespace VehicleLink

/-! ## Printing -/

/-- The digits of `q ≥ 0` rounded to `places` decimals, with a point if there are any. -/
def fixedDigits (places : Nat) (q : Rat) : List Char :=
  let rounded := nearest (q * ((Nat.pow 10 places : Nat) : Rat))
  let digits := (Nat.toDigits 10 rounded).leftpad (places + 1) '0'
  let whole := digits.length - places
  if places = 0 then digits else digits.take whole ++ '.' :: digits.drop whole

namespace Binary

variable {format : BinaryFormat}

/-- The text of `x` with `places` decimals and at least `width` characters after the sign. Both
zeros print alike, and the words for infinity and not-a-number are filled with zeros as well. -/
def fixed (places width : Nat) (x : Binary format) : String :=
  let sign := if x.isBelowZero then ['-'] else []
  let body :=
    match x.datum with
    | .nan => ['N', 'a', 'N']
    | .infinite _ => ['i', 'n', 'f']
    | .finite _ magnitude => fixedDigits places magnitude
  String.ofList (sign ++ body.leftpad width '0')

end Binary

/-! ## Reading -/

/-- What a number's text says, before it is rounded to a format. -/
inductive Numeral where
  | nan
  | infinite (negative : Bool)
  /-- The number `± digits · 10 ^ exponent`. -/
  | finite (negative : Bool) (digits : Nat) (exponent : Int)
deriving DecidableEq, Repr

namespace Numeral

/-- Whether a minus sign leads, and what follows an optional sign. -/
def splitSign : List Char → Bool × List Char
  | '-' :: cs => (true, cs)
  | '+' :: cs => (false, cs)
  | cs => (false, cs)

/-- The exponent that ends a number's text: none at all, or a mark and a signed whole number. -/
def exponent? : List Char → Option Int
  | [] => some 0
  | mark :: cs =>
    let (negative, digits) := splitSign cs
    if (mark = 'e' ∨ mark = 'E') ∧ digits ≠ [] ∧ digits.all Char.isDigit then
      let size := Nat.ofDigitChars 10 digits 0
      some (if negative then -(size : Int) else size)
    else none

/-- The number spelled by digits around an optional point. Either side of the point may be empty,
but not both. -/
def decimal? (negative : Bool) (cs : List Char) : Option Numeral :=
  let whole := cs.takeWhile Char.isDigit
  let rest := cs.dropWhile Char.isDigit
  let (fraction, rest) :=
    match rest with
    | '.' :: rest => (rest.takeWhile Char.isDigit, rest.dropWhile Char.isDigit)
    | rest => ([], rest)
  if whole = [] ∧ fraction = [] then none
  else (exponent? rest).map fun exponent =>
    finite negative (Nat.ofDigitChars 10 (whole ++ fraction) 0) (exponent - fraction.length)

/-- The number spelled by a text. Words may be in any case. -/
def ofText? (cs : List Char) : Option Numeral :=
  let (negative, body) := splitSign cs
  let word := body.map Char.toLower
  if word = ['n', 'a', 'n'] then some nan
  else if word = ['i', 'n', 'f'] ∨ word = ['i', 'n', 'f', 'i', 'n', 'i', 't', 'y'] then
    some (infinite negative)
  else decimal? negative body

/-- The rational `digits · 10 ^ exponent`. -/
def scaled (digits : Nat) (exponent : Int) : Rat :=
  match exponent with
  | .ofNat e => ((digits * Nat.pow 10 e : Nat) : Rat)
  | .negSucc e => mkRat digits (Nat.pow 10 (e + 1))

/-- The code nearest to `digits · 10 ^ exponent`. Exponents far outside the format are settled by
their size, since `10 ^ e` passes every finite value once `e` reaches `2 ^ exponentBits`, and
`digits · 10 ^ -e` is below half the least value once its binary length is that far below zero. -/
def code (format : BinaryFormat) (digits : Nat) (exponent : Int) : Nat :=
  let reach : Int := (Nat.pow 2 format.exponentBits : Nat)
  if digits = 0 then 0
  else if reach ≤ exponent then format.infinity
  else if (digits.log2 : Int) + 1 + 3 * exponent < -reach then 0
  else format.round (scaled digits exponent)

/-- The pattern nearest to the number. -/
def toBinary (format : BinaryFormat) : Numeral → Binary format
  | nan => Binary.ofDatum .nan
  | infinite negative => Binary.ofDatum (.infinite negative)
  | finite negative digits exponent => Binary.ofCode negative (code format digits exponent)

end Numeral

/-- The pattern nearest to the number that `text` spells. -/
def Binary.ofText? (format : BinaryFormat) (text : String) : Option (Binary format) :=
  (Numeral.ofText? text.toList).map (Numeral.toBinary format)

end VehicleLink
