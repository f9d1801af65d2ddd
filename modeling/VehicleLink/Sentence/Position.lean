import VehicleLink.Sentence.Catalogue

/-!
# Sentence/Position — positions in degrees

Sentences carry a position as degrees and minutes in one number, `ddmm.mmmm`, and its side of the
equator or of the prime meridian in a second column. `toDegrees` and `ofDegrees` convert that number
from and to plain degrees; the accessors do so for every type that has the four columns
(`SentenceKind.position?`).
-/

namespace VehicleLink

/-- The degrees that a number of degrees and minutes stands for; negative in the south and the
west. -/
def toDegrees (value : Binary .double) (direction : Direction) : Binary .double :=
  let degrees := (value / .ofInt 100).truncate IntegerType.int32.least IntegerType.int32.greatest
  let minutes := value % .ofInt 100
  let decimal := .ofInt degrees + minutes / .ofInt 60
  match direction with
  | .south | .west => -decimal
  | .north | .east => decimal

/-- The number of degrees and minutes that stands for some degrees, whatever their sign. -/
def ofDegrees (decimal : Binary .double) : Binary .double :=
  let size := if decimal.isBelowZero then -decimal else decimal
  let degrees : Binary .double :=
    .ofInt (size.truncate IntegerType.int32.least IntegerType.int32.greatest)
  let minutes := (size - degrees) * .ofInt 60
  degrees * .ofInt 100 + minutes

/-- Where the columns of a position are. -/
structure PositionColumns (columns : List Column) where
  latitude : Slot .latitude columns
  latitudeDirection : Slot .latitudeDirection columns
  longitude : Slot .longitude columns
  longitudeDirection : Slot .longitudeDirection columns

namespace PositionColumns

variable {columns : List Column} (position : PositionColumns columns)

/-- The latitude in degrees, if both its columns have a value. -/
def getLatitude (row : Row Column.Value columns) : Option (Binary .double) := do
  let value : Binary .double ← row.get position.latitude
  let direction : Direction ← row.get position.latitudeDirection
  return toDegrees value direction

/-- The longitude in degrees, if both its columns have a value. -/
def getLongitude (row : Row Column.Value columns) : Option (Binary .double) := do
  let value : Binary .double ← row.get position.longitude
  let direction : Direction ← row.get position.longitudeDirection
  return toDegrees value direction

/-- The sentence with a latitude given in degrees. -/
def setLatitude (row : Row Column.Value columns) (degrees : Binary .double) :
    Row Column.Value columns :=
  let side : Direction := if degrees.isAtLeastZero then .north else .south
  (row.set position.latitude (some (ofDegrees degrees))).set position.latitudeDirection (some side)

/-- The sentence with a longitude given in degrees. -/
def setLongitude (row : Row Column.Value columns) (degrees : Binary .double) :
    Row Column.Value columns :=
  let side : Direction := if degrees.isAtLeastZero then .east else .west
  (row.set position.longitude (some (ofDegrees degrees))).set position.longitudeDirection
    (some side)

end PositionColumns

/-- Where a type has its position, if it has one. -/
def SentenceKind.position? : (kind : SentenceKind) → Option (PositionColumns kind.type.columns)
  | gga | gns =>
    some ⟨.there .here, .there (.there .here), .there (.there (.there .here)),
      .there (.there (.there (.there .here)))⟩
  | gll => some ⟨.here, .there .here, .there (.there .here), .there (.there (.there .here))⟩
  | rmc =>
    some ⟨.there (.there .here), .there (.there (.there .here)),
      .there (.there (.there (.there .here))), .there (.there (.there (.there (.there .here))))⟩
  | dtm | gbs | gsa | gst | hdt | rot | vtg | zda => none

end VehicleLink
