import VehicleLink.Coded

/-!
# Sentence/Indicator — columns of one character

An indicator column holds one member of a small set, written as its letter. The sets are the types
of this file; `IndicatorSet` names them, so that a column can say which one it holds. A character
names a member if it is that member's letter, and characters beyond one byte name none.
-/

namespace VehicleLink

/-- A compass direction, mostly the side of the equator or of the prime meridian. -/
inductive Direction where
  | north | south | east | west
deriving DecidableEq, Repr

instance : Coded Direction where
  title := "Direction"
  members :=
    [.north, .south, .east, .west]
  label
    | .north => ('N'.toUInt8, "North")
    | .south => ('S'.toUInt8, "South")
    | .east => ('E'.toUInt8, "East")
    | .west => ('W'.toUInt8, "West")

/-- Whether the data of a sentence is valid. -/
inductive Status where
  | active | void
deriving DecidableEq, Repr

instance : Coded Status where
  title := "Status"
  members :=
    [.active, .void]
  label
    | .active => ('A'.toUInt8, "Active")
    | .void => ('V'.toUInt8, "Void")

/-- The unit of a column. -/
inductive Units where
  | kilometersPerHour | meters | knots
deriving DecidableEq, Repr

instance : Coded Units where
  title := "Units"
  members :=
    [.kilometersPerHour, .meters, .knots]
  label
    | .kilometersPerHour => ('K'.toUInt8, "KilometersPerHour")
    | .meters => ('M'.toUInt8, "Meters")
    | .knots => ('N'.toUInt8, "Knots")

/-- How a position was found, as a digit. -/
inductive FixQuality where
  | noFix | autonomous | differential | ppsMode | realTimeKinematic | floatRtk | estimated
  | manualInput | simulator
deriving DecidableEq, Repr

instance : Coded FixQuality where
  title := "PositionFixQuality"
  members :=
    [.noFix, .autonomous, .differential, .ppsMode, .realTimeKinematic, .floatRtk, .estimated,
     .manualInput, .simulator]
  label
    | .noFix => ('0'.toUInt8, "NoFix")
    | .autonomous => ('1'.toUInt8, "Autonomous")
    | .differential => ('2'.toUInt8, "Differential")
    | .ppsMode => ('3'.toUInt8, "PpsMode")
    | .realTimeKinematic => ('4'.toUInt8, "RealTimeKinematic")
    | .floatRtk => ('5'.toUInt8, "FloatRtk")
    | .estimated => ('6'.toUInt8, "Estimated")
    | .manualInput => ('7'.toUInt8, "ManualInput")
    | .simulator => ('8'.toUInt8, "Simulator")

/-- How a position was found, as a letter. -/
inductive FixMode where
  | autonomous | differential | estimated | floatRtk | manualInput | noFix | precise
  | realTimeKinematic | simulator
deriving DecidableEq, Repr

instance : Coded FixMode where
  title := "PositionFixModeIndicator"
  members :=
    [.autonomous, .differential, .estimated, .floatRtk, .manualInput, .noFix, .precise,
     .realTimeKinematic, .simulator]
  label
    | .autonomous => ('A'.toUInt8, "Autonomous")
    | .differential => ('D'.toUInt8, "Differential")
    | .estimated => ('E'.toUInt8, "Estimated")
    | .floatRtk => ('F'.toUInt8, "FloatRtk")
    | .manualInput => ('M'.toUInt8, "ManualInput")
    | .noFix => ('N'.toUInt8, "NoFix")
    | .precise => ('P'.toUInt8, "Precise")
    | .realTimeKinematic => ('R'.toUInt8, "RealTimeKinematic")
    | .simulator => ('S'.toUInt8, "Simulator")

/-- Who chooses between a two- and a three-dimensional fix. -/
inductive SelectionMode where
  | automatic | manual
deriving DecidableEq, Repr

instance : Coded SelectionMode where
  title := "FixMode"
  members :=
    [.automatic, .manual]
  label
    | .automatic => ('A'.toUInt8, "Automatic")
    | .manual => ('M'.toUInt8, "Manual")

/-- How many dimensions a fix has. -/
inductive FixDimension where
  | noFix | twoDimensional | threeDimensional
deriving DecidableEq, Repr

instance : Coded FixDimension where
  title := "FixType"
  members :=
    [.noFix, .twoDimensional, .threeDimensional]
  label
    | .noFix => ('1'.toUInt8, "NoFix")
    | .twoDimensional => ('2'.toUInt8, "TwoDimensional")
    | .threeDimensional => ('3'.toUInt8, "ThreeDimensional")

/-- Which north a course is measured from. -/
inductive NorthReference where
  | magneticNorth | trueNorth
deriving DecidableEq, Repr

instance : Coded NorthReference where
  title := "NorthReference"
  members :=
    [.magneticNorth, .trueNorth]
  label
    | .magneticNorth => ('M'.toUInt8, "Magnetic")
    | .trueNorth => ('T'.toUInt8, "True")

/-- Whether a position is safe to use. -/
inductive SafeIndicator where
  | safe | hazardous
deriving DecidableEq, Repr

instance : Coded SafeIndicator where
  title := "SafeIndicator"
  members :=
    [.safe, .hazardous]
  label
    | .safe => ('S'.toUInt8, "Safe")
    | .hazardous => ('U'.toUInt8, "Unsafe")

/-- How far a position can be trusted for navigation. -/
inductive NavigationalStatus where
  | safe | caution | hazardous | notValid
deriving DecidableEq, Repr

instance : Coded NavigationalStatus where
  title := "NavigationalStatus"
  members :=
    [.safe, .caution, .hazardous, .notValid]
  label
    | .safe => ('S'.toUInt8, "Safe")
    | .caution => ('C'.toUInt8, "Caution")
    | .hazardous => ('U'.toUInt8, "Unsafe")
    | .notValid => ('V'.toUInt8, "NotValid")

/-- The sets that an indicator column can draw from. -/
inductive IndicatorSet where
  | direction | status | units | fixQuality | fixMode | selectionMode | fixDimension
  | northReference | safeIndicator | navigationalStatus
deriving DecidableEq, Repr

namespace IndicatorSet

/-- The members of a set. -/
def Member : IndicatorSet → Type
  | direction => Direction
  | status => Status
  | units => Units
  | fixQuality => FixQuality
  | fixMode => FixMode
  | selectionMode => SelectionMode
  | fixDimension => FixDimension
  | northReference => NorthReference
  | safeIndicator => SafeIndicator
  | navigationalStatus => NavigationalStatus

instance : (set : IndicatorSet) → Coded set.Member
  | direction => inferInstanceAs (Coded Direction)
  | status => inferInstanceAs (Coded Status)
  | units => inferInstanceAs (Coded Units)
  | fixQuality => inferInstanceAs (Coded FixQuality)
  | fixMode => inferInstanceAs (Coded FixMode)
  | selectionMode => inferInstanceAs (Coded SelectionMode)
  | fixDimension => inferInstanceAs (Coded FixDimension)
  | northReference => inferInstanceAs (Coded NorthReference)
  | safeIndicator => inferInstanceAs (Coded SafeIndicator)
  | navigationalStatus => inferInstanceAs (Coded NavigationalStatus)

variable {set : IndicatorSet}

/-- The letter of a member. -/
def letter (member : set.Member) : Char := Char.ofNat (Coded.code member).toNat

/-- The member with the given letter. -/
def ofLetter? (set : IndicatorSet) (c : Char) : Option set.Member :=
  if c.toNat < 256 then Coded.ofCode? (UInt8.ofNat c.toNat) else none

end IndicatorSet

end VehicleLink
