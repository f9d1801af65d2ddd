import VehicleLink.Error

/-!
# Coded — enumerations whose members travel as one byte

Both protocols have closed sets of meanings for a byte. An instance of `Coded` lists the members
and labels each with its byte and its name; reading a byte is the search for the member so labelled.
-/

namespace VehicleLink

/-- An enumeration with a byte and a name for each member. -/
class Coded (α : Type) where
  title : String
  members : List α
  label : α → UInt8 × String

namespace Coded

variable {α : Type} [Coded α]

/-- The byte of a member. -/
def code (a : α) : UInt8 := (label a).1

/-- The name of a member. -/
def name (a : α) : String := (label a).2

/-- The member with the given byte. -/
def ofCode? (byte : UInt8) : Option α := (members (α := α)).find? fun a => code a = byte

/-- The member with the given byte, or the complaint that there is none. -/
def ofCode (byte : UInt8) : Except UnknownCode α :=
  match ofCode? byte with
  | some a => .ok a
  | none => .error ⟨title α, byte⟩

theorem code_of_ofCode? {byte : UInt8} {a : α} (h : ofCode? byte = some a) : code a = byte := by
  simpa using List.find?_some h

end Coded

end VehicleLink
