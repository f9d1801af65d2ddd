import VehicleLink.Message.Enumeration
import VehicleLink.Message.Flags
import VehicleLink.Message.Type

/-!
# Message/Catalogue — the message types of the common set

The types are listed with their fields in wire order: by element size, largest first, and otherwise
as the common set declares them. `MessageKind` is their index set; it is what a received identifier
is looked up in (`MessageKind.ofId?`). Fields that stand for members of an enumeration or for named
bits are read through the accessors at the end.
-/

namespace VehicleLink

namespace MessageType

/-- The presence of a system, and how it is. -/
def heartbeat : MessageType where
  id := 0
  name := "HEARTBEAT"
  fields :=
    [⟨"custom_mode", .uint32, 0⟩,
     ⟨"type", .uint8, 0⟩,
     ⟨"autopilot", .uint8, 0⟩,
     ⟨"base_mode", .uint8, 0⟩,
     ⟨"system_status", .uint8, 0⟩,
     ⟨"mavlink_version", .uint8, 0⟩]

/-- The general state of a system. -/
def sysStatus : MessageType where
  id := 1
  name := "SYS_STATUS"
  fields :=
    [⟨"onboard_control_sensors_present", .uint32, 0⟩,
     ⟨"onboard_control_sensors_enabled", .uint32, 0⟩,
     ⟨"onboard_control_sensors_health", .uint32, 0⟩,
     ⟨"load", .uint16, 0⟩,
     ⟨"voltage_battery", .uint16, 0⟩,
     ⟨"current_battery", .int16, 0⟩,
     ⟨"drop_rate_comm", .uint16, 0⟩,
     ⟨"errors_comm", .uint16, 0⟩,
     ⟨"errors_count1", .uint16, 0⟩,
     ⟨"errors_count2", .uint16, 0⟩,
     ⟨"errors_count3", .uint16, 0⟩,
     ⟨"errors_count4", .uint16, 0⟩,
     ⟨"battery_remaining", .int8, 0⟩]

/-- The time of the master clock. -/
def systemTime : MessageType where
  id := 2
  name := "SYSTEM_TIME"
  fields :=
    [⟨"time_unix_usec", .uint64, 0⟩,
     ⟨"time_boot_ms", .uint32, 0⟩]

/-- A request to take or release control of a system. -/
def changeOperatorControl : MessageType where
  id := 5
  name := "CHANGE_OPERATOR_CONTROL"
  fields :=
    [⟨"target_system", .uint8, 0⟩,
     ⟨"control_request", .uint8, 0⟩,
     ⟨"version", .uint8, 0⟩,
     ⟨"passkey", .char, 25⟩]

/-- The reply to a request for control. -/
def changeOperatorControlAck : MessageType where
  id := 6
  name := "CHANGE_OPERATOR_CONTROL_ACK"
  fields :=
    [⟨"gcs_system_id", .uint8, 0⟩,
     ⟨"control_request", .uint8, 0⟩,
     ⟨"ack", .uint8, 0⟩]

/-- A key that a system identifies itself with. -/
def authKey : MessageType where
  id := 7
  name := "AUTH_KEY"
  fields :=
    [⟨"key", .char, 32⟩]

/-- A request for one parameter, by name or by index. -/
def paramRequestRead : MessageType where
  id := 20
  name := "PARAM_REQUEST_READ"
  fields :=
    [⟨"param_index", .int16, 0⟩,
     ⟨"target_system", .uint8, 0⟩,
     ⟨"target_component", .uint8, 0⟩,
     ⟨"param_id", .char, 16⟩]

/-- A request for all parameters. -/
def paramRequestList : MessageType where
  id := 21
  name := "PARAM_REQUEST_LIST"
  fields :=
    [⟨"target_system", .uint8, 0⟩,
     ⟨"target_component", .uint8, 0⟩]

/-- The value of a parameter. -/
def paramValue : MessageType where
  id := 22
  name := "PARAM_VALUE"
  fields :=
    [⟨"param_value", .float, 0⟩,
     ⟨"param_count", .uint16, 0⟩,
     ⟨"param_index", .uint16, 0⟩,
     ⟨"param_id", .char, 16⟩,
     ⟨"param_type", .uint8, 0⟩]

/-- A request to change a parameter. -/
def paramSet : MessageType where
  id := 23
  name := "PARAM_SET"
  fields :=
    [⟨"param_value", .float, 0⟩,
     ⟨"target_system", .uint8, 0⟩,
     ⟨"target_component", .uint8, 0⟩,
     ⟨"param_id", .char, 16⟩,
     ⟨"param_type", .uint8, 0⟩]

/-- A position fix as the receiver reports it. -/
def gpsRawInt : MessageType where
  id := 24
  name := "GPS_RAW_INT"
  fields :=
    [⟨"time_usec", .uint64, 0⟩,
     ⟨"lat", .int32, 0⟩,
     ⟨"lon", .int32, 0⟩,
     ⟨"alt", .int32, 0⟩,
     ⟨"eph", .uint16, 0⟩,
     ⟨"epv", .uint16, 0⟩,
     ⟨"vel", .uint16, 0⟩,
     ⟨"cog", .uint16, 0⟩,
     ⟨"fix_type", .uint8, 0⟩,
     ⟨"satellites_visible", .uint8, 0⟩]

/-- The state of up to twenty satellites. -/
def gpsStatus : MessageType where
  id := 25
  name := "GPS_STATUS"
  fields :=
    [⟨"satellites_visible", .uint8, 0⟩,
     ⟨"satellite_prn", .uint8, 20⟩,
     ⟨"satellite_used", .uint8, 20⟩,
     ⟨"satellite_elevation", .uint8, 20⟩,
     ⟨"satellite_azimuth", .uint8, 20⟩,
     ⟨"satellite_snr", .uint8, 20⟩]

/-- Inertial readings in physical units. -/
def scaledImu : MessageType where
  id := 26
  name := "SCALED_IMU"
  fields :=
    [⟨"time_boot_ms", .uint32, 0⟩,
     ⟨"xacc", .int16, 0⟩,
     ⟨"yacc", .int16, 0⟩,
     ⟨"zacc", .int16, 0⟩,
     ⟨"xgyro", .int16, 0⟩,
     ⟨"ygyro", .int16, 0⟩,
     ⟨"zgyro", .int16, 0⟩,
     ⟨"xmag", .int16, 0⟩,
     ⟨"ymag", .int16, 0⟩,
     ⟨"zmag", .int16, 0⟩]

/-- Inertial readings as the sensors give them. -/
def rawImu : MessageType where
  id := 27
  name := "RAW_IMU"
  fields :=
    [⟨"time_usec", .uint64, 0⟩,
     ⟨"xacc", .int16, 0⟩,
     ⟨"yacc", .int16, 0⟩,
     ⟨"zacc", .int16, 0⟩,
     ⟨"xgyro", .int16, 0⟩,
     ⟨"ygyro", .int16, 0⟩,
     ⟨"zgyro", .int16, 0⟩,
     ⟨"xmag", .int16, 0⟩,
     ⟨"ymag", .int16, 0⟩,
     ⟨"zmag", .int16, 0⟩]

/-- Pressure readings as the sensors give them. -/
def rawPressure : MessageType where
  id := 28
  name := "RAW_PRESSURE"
  fields :=
    [⟨"time_usec", .uint64, 0⟩,
     ⟨"press_abs", .int16, 0⟩,
     ⟨"press_diff1", .int16, 0⟩,
     ⟨"press_diff2", .int16, 0⟩,
     ⟨"temperature", .int16, 0⟩]

/-- Pressure readings in physical units. -/
def scaledPressure : MessageType where
  id := 29
  name := "SCALED_PRESSURE"
  fields :=
    [⟨"time_boot_ms", .uint32, 0⟩,
     ⟨"press_abs", .float, 0⟩,
     ⟨"press_diff", .float, 0⟩,
     ⟨"temperature", .int16, 0⟩]

/-- The attitude as three angles. -/
def attitude : MessageType where
  id := 30
  name := "ATTITUDE"
  fields :=
    [⟨"time_boot_ms", .uint32, 0⟩,
     ⟨"roll", .float, 0⟩,
     ⟨"pitch", .float, 0⟩,
     ⟨"yaw", .float, 0⟩,
     ⟨"rollspeed", .float, 0⟩,
     ⟨"pitchspeed", .float, 0⟩,
     ⟨"yawspeed", .float, 0⟩]

/-- The attitude as a quaternion. -/
def attitudeQuaternion : MessageType where
  id := 31
  name := "ATTITUDE_QUATERNION"
  fields :=
    [⟨"time_boot_ms", .uint32, 0⟩,
     ⟨"q1", .float, 0⟩,
     ⟨"q2", .float, 0⟩,
     ⟨"q3", .float, 0⟩,
     ⟨"q4", .float, 0⟩,
     ⟨"rollspeed", .float, 0⟩,
     ⟨"pitchspeed", .float, 0⟩,
     ⟨"yawspeed", .float, 0⟩]

/-- The position in a local frame. -/
def localPositionNed : MessageType where
  id := 32
  name := "LOCAL_POSITION_NED"
  fields :=
    [⟨"time_boot_ms", .uint32, 0⟩,
     ⟨"x", .float, 0⟩,
     ⟨"y", .float, 0⟩,
     ⟨"z", .float, 0⟩,
     ⟨"vx", .float, 0⟩,
     ⟨"vy", .float, 0⟩,
     ⟨"vz", .float, 0⟩]

/-- The estimated global position. -/
def globalPositionInt : MessageType where
  id := 33
  name := "GLOBAL_POSITION_INT"
  fields :=
    [⟨"time_boot_ms", .uint32, 0⟩,
     ⟨"lat", .int32, 0⟩,
     ⟨"lon", .int32, 0⟩,
     ⟨"alt", .int32, 0⟩,
     ⟨"relative_alt", .int32, 0⟩,
     ⟨"vx", .int16, 0⟩,
     ⟨"vy", .int16, 0⟩,
     ⟨"vz", .int16, 0⟩,
     ⟨"hdg", .uint16, 0⟩]

/-- Remote control channels, scaled. -/
def rcChannelsScaled : MessageType where
  id := 34
  name := "RC_CHANNELS_SCALED"
  fields :=
    [⟨"time_boot_ms", .uint32, 0⟩,
     ⟨"chan1_scaled", .int16, 0⟩,
     ⟨"chan2_scaled", .int16, 0⟩,
     ⟨"chan3_scaled", .int16, 0⟩,
     ⟨"chan4_scaled", .int16, 0⟩,
     ⟨"chan5_scaled", .int16, 0⟩,
     ⟨"chan6_scaled", .int16, 0⟩,
     ⟨"chan7_scaled", .int16, 0⟩,
     ⟨"chan8_scaled", .int16, 0⟩,
     ⟨"port", .uint8, 0⟩,
     ⟨"rssi", .uint8, 0⟩]

/-- Remote control channels, as pulse lengths. -/
def rcChannelsRaw : MessageType where
  id := 35
  name := "RC_CHANNELS_RAW"
  fields :=
    [⟨"time_boot_ms", .uint32, 0⟩,
     ⟨"chan1_raw", .uint16, 0⟩,
     ⟨"chan2_raw", .uint16, 0⟩,
     ⟨"chan3_raw", .uint16, 0⟩,
     ⟨"chan4_raw", .uint16, 0⟩,
     ⟨"chan5_raw", .uint16, 0⟩,
     ⟨"chan6_raw", .uint16, 0⟩,
     ⟨"chan7_raw", .uint16, 0⟩,
     ⟨"chan8_raw", .uint16, 0⟩,
     ⟨"port", .uint8, 0⟩,
     ⟨"rssi", .uint8, 0⟩]

/-- The figures of a head-up display. -/
def vfrHud : MessageType where
  id := 74
  name := "VFR_HUD"
  fields :=
    [⟨"airspeed", .float, 0⟩,
     ⟨"groundspeed", .float, 0⟩,
     ⟨"alt", .float, 0⟩,
     ⟨"climb", .float, 0⟩,
     ⟨"heading", .int16, 0⟩,
     ⟨"throttle", .uint16, 0⟩]

/-- A command with its position in whole numbers. -/
def commandInt : MessageType where
  id := 75
  name := "COMMAND_INT"
  fields :=
    [⟨"param1", .float, 0⟩,
     ⟨"param2", .float, 0⟩,
     ⟨"param3", .float, 0⟩,
     ⟨"param4", .float, 0⟩,
     ⟨"x", .int32, 0⟩,
     ⟨"y", .int32, 0⟩,
     ⟨"z", .float, 0⟩,
     ⟨"command", .uint16, 0⟩,
     ⟨"target_system", .uint8, 0⟩,
     ⟨"target_component", .uint8, 0⟩,
     ⟨"frame", .uint8, 0⟩,
     ⟨"current", .uint8, 0⟩,
     ⟨"autocontinue", .uint8, 0⟩]

/-- A command with seven parameters. -/
def commandLong : MessageType where
  id := 76
  name := "COMMAND_LONG"
  fields :=
    [⟨"param1", .float, 0⟩,
     ⟨"param2", .float, 0⟩,
     ⟨"param3", .float, 0⟩,
     ⟨"param4", .float, 0⟩,
     ⟨"param5", .float, 0⟩,
     ⟨"param6", .float, 0⟩,
     ⟨"param7", .float, 0⟩,
     ⟨"command", .uint16, 0⟩,
     ⟨"target_system", .uint8, 0⟩,
     ⟨"target_component", .uint8, 0⟩,
     ⟨"confirmation", .uint8, 0⟩]

/-- How a command ended. -/
def commandAck : MessageType where
  id := 77
  name := "COMMAND_ACK"
  fields :=
    [⟨"command", .uint16, 0⟩,
     ⟨"result", .uint8, 0⟩]

/-- The version of an autopilot, and what it can do. -/
def autopilotVersion : MessageType where
  id := 148
  name := "AUTOPILOT_VERSION"
  fields :=
    [⟨"capabilities", .uint64, 0⟩,
     ⟨"uid", .uint64, 0⟩,
     ⟨"flight_sw_version", .uint32, 0⟩,
     ⟨"middleware_sw_version", .uint32, 0⟩,
     ⟨"os_sw_version", .uint32, 0⟩,
     ⟨"board_version", .uint32, 0⟩,
     ⟨"vendor_id", .uint16, 0⟩,
     ⟨"product_id", .uint16, 0⟩,
     ⟨"flight_custom_version", .uint8, 8⟩,
     ⟨"middleware_custom_version", .uint8, 8⟩,
     ⟨"os_custom_version", .uint8, 8⟩]

end MessageType

/-- The message types of the catalogue. -/
inductive MessageKind where
  | heartbeat | sysStatus | systemTime | changeOperatorControl | changeOperatorControlAck | authKey
  | paramRequestRead | paramRequestList | paramValue | paramSet | gpsRawInt | gpsStatus | scaledImu
  | rawImu | rawPressure | scaledPressure | attitude | attitudeQuaternion | localPositionNed
  | globalPositionInt | rcChannelsScaled | rcChannelsRaw | vfrHud | commandInt | commandLong
  | commandAck | autopilotVersion
deriving DecidableEq, Repr

namespace MessageKind

/-- All kinds, in the order of their identifiers. -/
def all : List MessageKind :=
  [.heartbeat, .sysStatus, .systemTime, .changeOperatorControl, .changeOperatorControlAck, .authKey,
   .paramRequestRead, .paramRequestList, .paramValue, .paramSet, .gpsRawInt, .gpsStatus, .scaledImu,
   .rawImu, .rawPressure, .scaledPressure, .attitude, .attitudeQuaternion, .localPositionNed,
   .globalPositionInt, .rcChannelsScaled, .rcChannelsRaw, .vfrHud, .commandInt, .commandLong,
   .commandAck, .autopilotVersion]

/-- The type that a kind stands for. -/
def type : MessageKind → MessageType
  | heartbeat => .heartbeat
  | sysStatus => .sysStatus
  | systemTime => .systemTime
  | changeOperatorControl => .changeOperatorControl
  | changeOperatorControlAck => .changeOperatorControlAck
  | authKey => .authKey
  | paramRequestRead => .paramRequestRead
  | paramRequestList => .paramRequestList
  | paramValue => .paramValue
  | paramSet => .paramSet
  | gpsRawInt => .gpsRawInt
  | gpsStatus => .gpsStatus
  | scaledImu => .scaledImu
  | rawImu => .rawImu
  | rawPressure => .rawPressure
  | scaledPressure => .scaledPressure
  | attitude => .attitude
  | attitudeQuaternion => .attitudeQuaternion
  | localPositionNed => .localPositionNed
  | globalPositionInt => .globalPositionInt
  | rcChannelsScaled => .rcChannelsScaled
  | rcChannelsRaw => .rcChannelsRaw
  | vfrHud => .vfrHud
  | commandInt => .commandInt
  | commandLong => .commandLong
  | commandAck => .commandAck
  | autopilotVersion => .autopilotVersion

/-- The kind with the given identifier. -/
def ofId? (id : Nat) : Option MessageKind := all.find? fun kind => kind.type.id = id

/-- The kind with the given name. -/
def ofName? (name : String) : Option MessageKind := all.find? fun kind => kind.type.name = name

theorem mem_all (kind : MessageKind) : kind ∈ all := by
  cases kind <;> decide

theorem id_of_ofId? {id : Nat} {kind : MessageKind} (h : ofId? id = some kind) :
    kind.type.id = id := by
  simpa using List.find?_some h

end MessageKind

/-! ## Fields read as members and flags -/

namespace MessageType.Heartbeat

/-- What kind of vehicle sends the heartbeat. -/
def vehicleType (record : heartbeat.Record) : Option VehicleType :=
  Coded.ofCode? (record.get (Slot.here.there : Slot ⟨"type", .uint8, 0⟩ heartbeat.fields))

/-- Which autopilot it runs. -/
def autopilot (record : heartbeat.Record) : Option Autopilot :=
  Coded.ofCode?
    (record.get (Slot.here.there.there : Slot ⟨"autopilot", .uint8, 0⟩ heartbeat.fields))

/-- How it is being flown. -/
def modeFlags (record : heartbeat.Record) : Flags .mode :=
  let mode : UInt8 :=
    record.get (Slot.here.there.there.there : Slot ⟨"base_mode", .uint8, 0⟩ heartbeat.fields)
  .ofNat mode.toNat

/-- How far it is from working order. -/
def state (record : heartbeat.Record) : Option SystemState :=
  Coded.ofCode?
    (record.get
      (Slot.here.there.there.there.there : Slot ⟨"system_status", .uint8, 0⟩ heartbeat.fields))

end MessageType.Heartbeat

namespace MessageType.SysStatus

/-- The sensors that are fitted. -/
def present (record : sysStatus.Record) : Flags .sensors :=
  let mask : UInt32 :=
    record.get
      (Slot.here : Slot ⟨"onboard_control_sensors_present", .uint32, 0⟩ sysStatus.fields)
  .ofNat mask.toNat

/-- The sensors that are switched on. -/
def enabled (record : sysStatus.Record) : Flags .sensors :=
  let mask : UInt32 :=
    record.get
      (Slot.here.there : Slot ⟨"onboard_control_sensors_enabled", .uint32, 0⟩ sysStatus.fields)
  .ofNat mask.toNat

/-- The sensors that work. -/
def health (record : sysStatus.Record) : Flags .sensors :=
  let mask : UInt32 :=
    record.get
      (Slot.here.there.there : Slot ⟨"onboard_control_sensors_health", .uint32, 0⟩ sysStatus.fields)
  .ofNat mask.toNat

end MessageType.SysStatus

/-- How good the position fix is. -/
def MessageType.GpsRawInt.fix (record : gpsRawInt.Record) : Option GpsFix :=
  Coded.ofCode?
    (record.get
      (Slot.here.there.there.there.there.there.there.there.there :
        Slot ⟨"fix_type", .uint8, 0⟩ gpsRawInt.fields))

/-- How the command ended. -/
def MessageType.CommandAck.outcome (record : commandAck.Record) : Option CommandResult :=
  Coded.ofCode? (record.get (Slot.here.there : Slot ⟨"result", .uint8, 0⟩ commandAck.fields))

/-- What the autopilot can do. -/
def MessageType.AutopilotVersion.capabilities (record : autopilotVersion.Record) :
    Flags .capabilities :=
  let mask : UInt64 :=
    record.get (Slot.here : Slot ⟨"capabilities", .uint64, 0⟩ autopilotVersion.fields)
  .ofNat mask.toNat

end VehicleLink
