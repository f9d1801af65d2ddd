import VehicleLink.Sentence.Type

/-!
# Sentence/Catalogue — the sentence types of the common set

The types are listed with their columns in order. `SentenceKind` is their index set; it is what a
received identifier is looked up in (`SentenceKind.ofId?`). Columns that positions and times are
made of are the same in every type that has them, and have names of their own.
-/

namespace VehicleLink

namespace Column

/-- A number with a fixed count of decimal places. -/
def float (name : String) (format : BinaryFormat) (places : Nat) : Column :=
  ⟨name, .float format, places, 0⟩

/-- A whole number with a least width. -/
def integer (name : String) (width : Nat) : Column := ⟨name, .integer .int32, 0, width⟩

/-- A text of bounded size. -/
def text (name : String) (capacity : Nat) : Column := ⟨name, .text capacity, 0, 0⟩

/-- A member of a set of indicators. -/
def indicator (name : String) (set : IndicatorSet) : Column := ⟨name, .indicator set, 0, 0⟩

/-- The time of day, as `hhmmss.ss`. -/
def utcTime : Column := ⟨"utc_time", .float .double, 2, 9⟩

/-- The latitude, as `ddmm.mmmm`. -/
def latitude : Column := ⟨"latitude", .float .double, 4, 9⟩

/-- The side of the equator. -/
def latitudeDirection : Column := .indicator "latitude_direction" .direction

/-- The longitude, as `dddmm.mmmm`. -/
def longitude : Column := ⟨"longitude", .float .double, 4, 10⟩

/-- The side of the prime meridian. -/
def longitudeDirection : Column := .indicator "longitude_direction" .direction

end Column

namespace SentenceType

/-- The datum that positions refer to. -/
def dtm : SentenceType where
  id := "DTM"
  columns :=
    [.text "local_datum_code" 5,
     .text "local_datum_subdivision_code" 8,
     .float "latitude_offset" .double 4,
     .indicator "latitude_offset_direction" .direction,
     .float "longitude_offset" .double 4,
     .indicator "longitude_offset_direction" .direction,
     .float "altitude_offset" .double 1,
     .text "reference_datum_code" 5]

/-- Satellite faults. -/
def gbs : SentenceType where
  id := "GBS"
  columns :=
    [.utcTime,
     .float "lat_error" .single 1,
     .float "lon_error" .single 1,
     .float "alt_error" .single 1,
     .integer "satellite_id" 2,
     .float "probability" .single 3,
     .float "bias" .single 1,
     .float "std_dev" .single 1]

/-- A position fix. -/
def gga : SentenceType where
  id := "GGA"
  columns :=
    [.utcTime,
     .latitude,
     .latitudeDirection,
     .longitude,
     .longitudeDirection,
     .indicator "quality" .fixQuality,
     .integer "num_satellites" 2,
     .float "hdop" .single 1,
     .float "altitude" .single 1,
     .indicator "altitude_units" .units,
     .float "geoid_separation" .single 1,
     .indicator "geoid_separation_units" .units,
     .float "age_of_differential" .single 1,
     .integer "station_id" 4]

/-- A geographic position. -/
def gll : SentenceType where
  id := "GLL"
  columns :=
    [.latitude,
     .latitudeDirection,
     .longitude,
     .longitudeDirection,
     .utcTime,
     .indicator "status" .status,
     .indicator "mode_indicator" .fixMode]

/-- A fix by several satellite systems. -/
def gns : SentenceType where
  id := "GNS"
  columns :=
    [.utcTime,
     .latitude,
     .latitudeDirection,
     .longitude,
     .longitudeDirection,
     .text "mode_indicator" 8,
     .integer "num_satellites" 2,
     .float "hdop" .single 1,
     .float "altitude" .single 1,
     .float "geoid_separation" .single 1,
     .float "age_of_differential" .single 1,
     .integer "station_id" 4,
     .indicator "navigational_status" .navigationalStatus]

/-- Dilution of precision, and the satellites in use. -/
def gsa : SentenceType where
  id := "GSA"
  columns :=
    [.indicator "selection_mode" .selectionMode,
     .indicator "fix_mode" .fixDimension,
     .integer "sv_id_01" 2,
     .integer "sv_id_02" 2,
     .integer "sv_id_03" 2,
     .integer "sv_id_04" 2,
     .integer "sv_id_05" 2,
     .integer "sv_id_06" 2,
     .integer "sv_id_07" 2,
     .integer "sv_id_08" 2,
     .integer "sv_id_09" 2,
     .integer "sv_id_10" 2,
     .integer "sv_id_11" 2,
     .integer "sv_id_12" 2,
     .float "pdop" .single 1,
     .float "hdop" .single 1,
     .float "vdop" .single 1]

/-- Error statistics of a position. -/
def gst : SentenceType where
  id := "GST"
  columns :=
    [.utcTime,
     .float "rms_std_dev" .single 1,
     .float "semi_major_std_dev" .single 1,
     .float "semi_minor_std_dev" .single 1,
     .float "semi_major_orientation" .single 1,
     .float "latitude_error_std_dev" .single 1,
     .float "longitude_error_std_dev" .single 1,
     .float "altitude_error_std_dev" .single 1]

/-- The true heading. -/
def hdt : SentenceType where
  id := "HDT"
  columns :=
    [.float "heading" .single 1,
     .indicator "true_indicator" .northReference]

/-- The recommended minimum of navigation data. -/
def rmc : SentenceType where
  id := "RMC"
  columns :=
    [.utcTime,
     .indicator "status" .status,
     .latitude,
     .latitudeDirection,
     .longitude,
     .longitudeDirection,
     .float "speed" .single 1,
     .float "course" .single 1,
     .integer "date" 6,
     .float "magnetic_variation" .single 1,
     .indicator "magnetic_variation_direction" .direction,
     .indicator "mode_indicator" .fixMode]

/-- The rate of turn. -/
def rot : SentenceType where
  id := "ROT"
  columns :=
    [.float "rate_of_turn" .single 1,
     .indicator "status" .status]

/-- Course and speed over ground. -/
def vtg : SentenceType where
  id := "VTG"
  columns :=
    [.float "course_true" .single 1,
     .indicator "reference_true" .northReference,
     .float "course_magnetic" .single 1,
     .indicator "reference_magnetic" .northReference,
     .float "speed_knots" .single 1,
     .indicator "units_knots" .units,
     .float "speed_kph" .single 1,
     .indicator "units_kph" .units,
     .indicator "mode_indicator" .fixMode]

/-- Time and date. -/
def zda : SentenceType where
  id := "ZDA"
  columns :=
    [.utcTime,
     .integer "day" 2,
     .integer "month" 2,
     .integer "year" 4,
     .integer "local_zone_hours" 2,
     .integer "local_zone_minutes" 2]

end SentenceType

/-- The sentence types of the catalogue. -/
inductive SentenceKind where
  | dtm | gbs | gga | gll | gns | gsa | gst | hdt | rmc | rot | vtg | zda
deriving DecidableEq, Repr

namespace SentenceKind

/-- All kinds. -/
def all : List SentenceKind :=
  [.dtm, .gbs, .gga, .gll, .gns, .gsa, .gst, .hdt, .rmc, .rot, .vtg, .zda]

/-- The type that a kind stands for. -/
def type : SentenceKind → SentenceType
  | dtm => .dtm
  | gbs => .gbs
  | gga => .gga
  | gll => .gll
  | gns => .gns
  | gsa => .gsa
  | gst => .gst
  | hdt => .hdt
  | rmc => .rmc
  | rot => .rot
  | vtg => .vtg
  | zda => .zda

/-- The kind with the given identifier. -/
def ofId? (id : String) : Option SentenceKind := all.find? fun kind => kind.type.id = id

theorem mem_all (kind : SentenceKind) : kind ∈ all := by
  cases kind <;> decide

theorem id_of_ofId? {id : String} {kind : SentenceKind} (h : ofId? id = some kind) :
    kind.type.id = id := by
  simpa using List.find?_some h

end SentenceKind

end VehicleLink
