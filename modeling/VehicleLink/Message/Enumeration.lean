import VehicleLink.Coded

/-!
# Message/Enumeration — the enumerations that message fields hold

Fields carry these as raw bytes, so that a message with an unknown code still decodes; the reading
as a member is `Coded.ofCode?`. Titles and member names are those of the message set.
-/

namespace VehicleLink

/-- What kind of vehicle or component a system is. -/
inductive VehicleType where
  | generic | fixedWing | quadrotor | coaxial | helicopter | antennaTracker | gcs | airship
  | freeBalloon | rocket | groundRover | surfaceBoat | submarine | hexarotor | octorotor | tricopter
  | flappingWing | kite | onboardController | vtolTailsitterDuorotor | vtolTailsitterQuadrotor
  | vtolTiltrotor | vtolFixedrotor | vtolTailsitter | vtolTiltwing | vtolReserved5 | gimbal | adsb
  | parafoil | dodecarotor | camera | chargingStation | flarm | servo | odid | decarotor | battery
  | parachute | log | osd | imu | gps | winch | genericMultirotor | illuminator | spacecraftOrbiter
  | groundQuadruped | vtolGyrodyne | gripper | radio
deriving DecidableEq, Repr

instance : Coded VehicleType where
  title := "MavType"
  members :=
    [.generic, .fixedWing, .quadrotor, .coaxial, .helicopter, .antennaTracker, .gcs, .airship,
     .freeBalloon, .rocket, .groundRover, .surfaceBoat, .submarine, .hexarotor, .octorotor,
     .tricopter, .flappingWing, .kite, .onboardController, .vtolTailsitterDuorotor,
     .vtolTailsitterQuadrotor, .vtolTiltrotor, .vtolFixedrotor, .vtolTailsitter, .vtolTiltwing,
     .vtolReserved5, .gimbal, .adsb, .parafoil, .dodecarotor, .camera, .chargingStation, .flarm,
     .servo, .odid, .decarotor, .battery, .parachute, .log, .osd, .imu, .gps, .winch,
     .genericMultirotor, .illuminator, .spacecraftOrbiter, .groundQuadruped, .vtolGyrodyne,
     .gripper, .radio]
  label
    | .generic => (0, "Generic")
    | .fixedWing => (1, "FixedWing")
    | .quadrotor => (2, "Quadrotor")
    | .coaxial => (3, "Coaxial")
    | .helicopter => (4, "Helicopter")
    | .antennaTracker => (5, "AntennaTracker")
    | .gcs => (6, "Gcs")
    | .airship => (7, "Airship")
    | .freeBalloon => (8, "FreeBalloon")
    | .rocket => (9, "Rocket")
    | .groundRover => (10, "GroundRover")
    | .surfaceBoat => (11, "SurfaceBoat")
    | .submarine => (12, "Submarine")
    | .hexarotor => (13, "Hexarotor")
    | .octorotor => (14, "Octorotor")
    | .tricopter => (15, "Tricopter")
    | .flappingWing => (16, "FlappingWing")
    | .kite => (17, "Kite")
    | .onboardController => (18, "OnboardController")
    | .vtolTailsitterDuorotor => (19, "VtolTailsitterDuorotor")
    | .vtolTailsitterQuadrotor => (20, "VtolTailsitterQuadrotor")
    | .vtolTiltrotor => (21, "VtolTiltrotor")
    | .vtolFixedrotor => (22, "VtolFixedrotor")
    | .vtolTailsitter => (23, "VtolTailsitter")
    | .vtolTiltwing => (24, "VtolTiltwing")
    | .vtolReserved5 => (25, "VtolReserved5")
    | .gimbal => (26, "Gimbal")
    | .adsb => (27, "Adsb")
    | .parafoil => (28, "Parafoil")
    | .dodecarotor => (29, "Dodecarotor")
    | .camera => (30, "Camera")
    | .chargingStation => (31, "ChargingStation")
    | .flarm => (32, "Flarm")
    | .servo => (33, "Servo")
    | .odid => (34, "Odid")
    | .decarotor => (35, "Decarotor")
    | .battery => (36, "Battery")
    | .parachute => (37, "Parachute")
    | .log => (38, "Log")
    | .osd => (39, "Osd")
    | .imu => (40, "Imu")
    | .gps => (41, "Gps")
    | .winch => (42, "Winch")
    | .genericMultirotor => (43, "GenericMultirotor")
    | .illuminator => (44, "Illuminator")
    | .spacecraftOrbiter => (45, "SpacecraftOrbiter")
    | .groundQuadruped => (46, "GroundQuadruped")
    | .vtolGyrodyne => (47, "VtolGyrodyne")
    | .gripper => (48, "Gripper")
    | .radio => (49, "Radio")

/-- Which autopilot a system runs. -/
inductive Autopilot where
  | generic | reserved | slugs | arduPilotMega | openPilot | genericWaypointsOnly
  | genericWaypointsAndSimpleNavigationOnly | genericMissionFull | invalid | ppz | udb | fp | px4
  | smaccmPilot | autoQuad | armazila | aerob | asluav | smartAp | airRails | reflex
deriving DecidableEq, Repr

instance : Coded Autopilot where
  title := "MavAutopilot"
  members :=
    [.generic, .reserved, .slugs, .arduPilotMega, .openPilot, .genericWaypointsOnly,
     .genericWaypointsAndSimpleNavigationOnly, .genericMissionFull, .invalid, .ppz, .udb, .fp, .px4,
     .smaccmPilot, .autoQuad, .armazila, .aerob, .asluav, .smartAp, .airRails, .reflex]
  label
    | .generic => (0, "Generic")
    | .reserved => (1, "Reserved")
    | .slugs => (2, "Slugs")
    | .arduPilotMega => (3, "ArduPilotMega")
    | .openPilot => (4, "OpenPilot")
    | .genericWaypointsOnly => (5, "GenericWaypointsOnly")
    | .genericWaypointsAndSimpleNavigationOnly => (6, "GenericWaypointsAndSimpleNavigationOnly")
    | .genericMissionFull => (7, "GenericMissionFull")
    | .invalid => (8, "Invalid")
    | .ppz => (9, "Ppz")
    | .udb => (10, "Udb")
    | .fp => (11, "Fp")
    | .px4 => (12, "Px4")
    | .smaccmPilot => (13, "SmaccmPilot")
    | .autoQuad => (14, "AutoQuad")
    | .armazila => (15, "Armazila")
    | .aerob => (16, "Aerob")
    | .asluav => (17, "Asluav")
    | .smartAp => (18, "SmartAp")
    | .airRails => (19, "AirRails")
    | .reflex => (20, "Reflex")

/-- How far a system is from working order. -/
inductive SystemState where
  | uninit | boot | calibrating | standby | active | critical | emergency | poweroff
  | flightTermination
deriving DecidableEq, Repr

instance : Coded SystemState where
  title := "MavState"
  members :=
    [.uninit, .boot, .calibrating, .standby, .active, .critical, .emergency, .poweroff,
     .flightTermination]
  label
    | .uninit => (0, "Uninit")
    | .boot => (1, "Boot")
    | .calibrating => (2, "Calibrating")
    | .standby => (3, "Standby")
    | .active => (4, "Active")
    | .critical => (5, "Critical")
    | .emergency => (6, "Emergency")
    | .poweroff => (7, "Poweroff")
    | .flightTermination => (8, "FlightTermination")

/-- How a command ended. -/
inductive CommandResult where
  | accepted | temporarilyRejected | denied | unsupported | failed | inProgress | cancelled
  | commandLongOnly | commandIntOnly | commandUnsupportedMavFrame | notInControl
deriving DecidableEq, Repr

instance : Coded CommandResult where
  title := "MavResult"
  members :=
    [.accepted, .temporarilyRejected, .denied, .unsupported, .failed, .inProgress, .cancelled,
     .commandLongOnly, .commandIntOnly, .commandUnsupportedMavFrame, .notInControl]
  label
    | .accepted => (0, "Accepted")
    | .temporarilyRejected => (1, "TemporarilyRejected")
    | .denied => (2, "Denied")
    | .unsupported => (3, "Unsupported")
    | .failed => (4, "Failed")
    | .inProgress => (5, "InProgress")
    | .cancelled => (6, "Cancelled")
    | .commandLongOnly => (7, "CommandLongOnly")
    | .commandIntOnly => (8, "CommandIntOnly")
    | .commandUnsupportedMavFrame => (9, "CommandUnsupportedMavFrame")
    | .notInControl => (10, "NotInControl")

/-- The number type of a parameter. Codes start at one. -/
inductive ParameterType where
  | uint8 | int8 | uint16 | int16 | uint32 | int32 | uint64 | int64 | real32 | real64
deriving DecidableEq, Repr

instance : Coded ParameterType where
  title := "MavParamType"
  members :=
    [.uint8, .int8, .uint16, .int16, .uint32, .int32, .uint64, .int64, .real32, .real64]
  label
    | .uint8 => (1, "Uint8")
    | .int8 => (2, "Int8")
    | .uint16 => (3, "Uint16")
    | .int16 => (4, "Int16")
    | .uint32 => (5, "Uint32")
    | .int32 => (6, "Int32")
    | .uint64 => (7, "Uint64")
    | .int64 => (8, "Int64")
    | .real32 => (9, "Real32")
    | .real64 => (10, "Real64")

/-- What the coordinates of a command are measured against. -/
inductive CoordinateFrame where
  | global | localNed | mission | globalRelativeAlt | localEnu | globalInt | globalRelativeAltInt
  | localOffsetNed | bodyNed | bodyOffsetNed | globalTerrainAlt | globalTerrainAltInt | bodyFrd
  | reserved13 | reserved14 | reserved15 | reserved16 | reserved17 | reserved18 | reserved19
  | localFrd | localFlu
deriving DecidableEq, Repr

instance : Coded CoordinateFrame where
  title := "MavFrame"
  members :=
    [.global, .localNed, .mission, .globalRelativeAlt, .localEnu, .globalInt, .globalRelativeAltInt,
     .localOffsetNed, .bodyNed, .bodyOffsetNed, .globalTerrainAlt, .globalTerrainAltInt, .bodyFrd,
     .reserved13, .reserved14, .reserved15, .reserved16, .reserved17, .reserved18, .reserved19,
     .localFrd, .localFlu]
  label
    | .global => (0, "Global")
    | .localNed => (1, "LocalNed")
    | .mission => (2, "Mission")
    | .globalRelativeAlt => (3, "GlobalRelativeAlt")
    | .localEnu => (4, "LocalEnu")
    | .globalInt => (5, "GlobalInt")
    | .globalRelativeAltInt => (6, "GlobalRelativeAltInt")
    | .localOffsetNed => (7, "LocalOffsetNed")
    | .bodyNed => (8, "BodyNed")
    | .bodyOffsetNed => (9, "BodyOffsetNed")
    | .globalTerrainAlt => (10, "GlobalTerrainAlt")
    | .globalTerrainAltInt => (11, "GlobalTerrainAltInt")
    | .bodyFrd => (12, "BodyFrd")
    | .reserved13 => (13, "Reserved13")
    | .reserved14 => (14, "Reserved14")
    | .reserved15 => (15, "Reserved15")
    | .reserved16 => (16, "Reserved16")
    | .reserved17 => (17, "Reserved17")
    | .reserved18 => (18, "Reserved18")
    | .reserved19 => (19, "Reserved19")
    | .localFrd => (20, "LocalFrd")
    | .localFlu => (21, "LocalFlu")

/-- How good a position fix is. -/
inductive GpsFix where
  | noGps | noFix | fix2d | fix3d | dgps | rtkFloat | rtkFixed | static | ppp
deriving DecidableEq, Repr

instance : Coded GpsFix where
  title := "GpsFixType"
  members :=
    [.noGps, .noFix, .fix2d, .fix3d, .dgps, .rtkFloat, .rtkFixed, .static, .ppp]
  label
    | .noGps => (0, "NoGps")
    | .noFix => (1, "NoFix")
    | .fix2d => (2, "Fix2d")
    | .fix3d => (3, "Fix3d")
    | .dgps => (4, "Dgps")
    | .rtkFloat => (5, "RtkFloat")
    | .rtkFixed => (6, "RtkFixed")
    | .static => (7, "Static")
    | .ppp => (8, "Ppp")

end VehicleLink
