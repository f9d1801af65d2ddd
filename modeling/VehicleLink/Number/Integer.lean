/-!
# Number/Integer — whole numbers of fixed range and their text

An `IntegerType` is a range of whole numbers, its `Value`s are the members of that range, so that
nothing outside it can be stored or read. Text has an optional sign and decimal digits; a minus sign
is only for the signed types. Printing writes the sign first and fills the digits with zeros.
-/

namespace VehicleLink

/-- The whole numbers of `bits` bits, in two's complement if `signed`. -/
structure IntegerType where
  signed : Bool
  bits : Nat
deriving DecidableEq, Repr

namespace IntegerType

def int8 : IntegerType := ⟨true, 8⟩
def int16 : IntegerType := ⟨true, 16⟩
def int32 : IntegerType := ⟨true, 32⟩
def int64 : IntegerType := ⟨true, 64⟩
def uint8 : IntegerType := ⟨false, 8⟩
def uint16 : IntegerType := ⟨false, 16⟩
def uint32 : IntegerType := ⟨false, 32⟩
def uint64 : IntegerType := ⟨false, 64⟩

variable (type : IntegerType)

/-- The least member. -/
def least : Int := if type.signed then -(Nat.pow 2 (type.bits - 1) : Nat) else 0

/-- The greatest member. -/
def greatest : Int :=
  (Nat.pow 2 (if type.signed then type.bits - 1 else type.bits) : Nat) - 1

/-- A member of the range. -/
def Value : Type := { i : Int // type.least ≤ i ∧ i ≤ type.greatest }
deriving DecidableEq

/-- The member `i`, if it is one. -/
def ofInt? (i : Int) : Option type.Value :=
  if h : type.least ≤ i ∧ i ≤ type.greatest then some ⟨i, h⟩ else none

/-- The sign of `i` if it is negative, then at least `width` digits. -/
def text (width : Nat) (i : Int) : String :=
  let sign := if i < 0 then ['-'] else []
  String.ofList (sign ++ (Nat.toDigits 10 i.natAbs).leftpad width '0')

/-- Whether a minus sign leads, and what follows an optional sign. Unsigned types have no minus
sign, so there it is left in place. -/
def splitSign : List Char → Bool × List Char
  | '+' :: cs => (false, cs)
  | '-' :: cs => if type.signed then (true, cs) else (false, '-' :: cs)
  | cs => (false, cs)

/-- The member that `text` spells: an optional sign and at least one digit. -/
def ofText? (text : String) : Option type.Value :=
  let (negative, digits) := type.splitSign text.toList
  if digits ≠ [] ∧ digits.all Char.isDigit then
    let size := Nat.ofDigitChars 10 digits 0
    type.ofInt? (if negative then -(size : Int) else size)
  else none

end IntegerType

end VehicleLink
