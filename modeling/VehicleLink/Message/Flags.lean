/-!
# Message/Flags — bit masks with named bits

A `FlagFamily` names the bits of a mask from the lowest on. `Flags` of a family hold exactly the
named bits: reading a mask (`Flags.ofNat`) drops every other bit.
-/

namespace VehicleLink

/-- The names of a mask's bits, lowest first. -/
structure FlagFamily where
  names : List String
deriving DecidableEq, Repr

/-- One bit for each name of a family. -/
structure Flags (family : FlagFamily) where
  bits : BitVec family.names.length
deriving DecidableEq, Repr

namespace Flags

variable {family : FlagFamily}

/-- The named bits of a mask. -/
def ofNat (mask : Nat) : Flags family := ⟨BitVec.ofNat _ mask⟩

/-- The mask with these bits set. -/
def toNat (flags : Flags family) : Nat := flags.bits.toNat

/-- Whether the bit at a place is set. -/
def isSet (flags : Flags family) (place : Nat) : Bool := flags.bits.getLsbD place

/-- The names of the bits that are set, lowest first. -/
def on (flags : Flags family) : List String :=
  (family.names.zipIdx.filter fun (_, place) => flags.isSet place).map Prod.fst

/-- The flags with the named bit set or cleared. A name outside the family changes nothing. -/
def set (flags : Flags family) (name : String) (value : Bool) : Flags family :=
  let bit : BitVec family.names.length :=
    match family.names.idxOf? name with
    | some place => BitVec.ofNat _ (Nat.pow 2 place)
    | none => 0
  ⟨if value then flags.bits ||| bit else flags.bits &&& ~~~bit⟩

end Flags

namespace FlagFamily

/-- Features that a receiver must understand to read a frame at all. -/
def incompat : FlagFamily := ⟨["signed"]⟩

/-- How a vehicle is being flown. -/
def mode : FlagFamily :=
  ⟨["custom_mode_enabled", "test_enabled", "auto_enabled", "guided_enabled", "stabilize_enabled",
    "hil_enabled", "manual_input_enabled", "safety_armed"]⟩

/-- The sensors and subsystems of a vehicle. -/
def sensors : FlagFamily :=
  ⟨["gyro_3d", "accel_3d", "mag_3d", "absolute_pressure", "differential_pressure", "gps",
    "optical_flow", "vision_position", "laser_position", "external_ground_truth",
    "angular_rate_control", "attitude_stabilization", "yaw_position", "z_altitude_control",
    "xy_position_control", "motor_outputs", "rc_receiver", "gyro2_3d", "accel2_3d", "mag2_3d",
    "geofence", "ahrs", "terrain", "reverse_motor", "logging", "battery", "proximity", "satcom",
    "prearm_check", "obstacle_avoidance", "propulsion", "extension_used"]⟩

/-- What an autopilot can do over the link. -/
def capabilities : FlagFamily :=
  ⟨["mission_float", "param_float", "mission_int", "command_int", "param_encode_bytewise", "ftp",
    "set_attitude_target", "set_position_target_local_ned", "set_position_target_global_int",
    "terrain", "reserved3", "flight_termination", "compass_calibration", "mavlink2",
    "mission_fence", "mission_rally", "reserved2", "param_encode_c_cast",
    "component_implements_gimbal_manager"]⟩

end FlagFamily

end VehicleLink
