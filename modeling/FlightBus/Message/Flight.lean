import FlightBus.Message.Format

/-!
# The flight dialect

A flight computer and its simulator exchange four types of messages: heartbeats, as every
MAVLink node sends them, samples of inertial measurement units, commands to the fin
servos, and a small message to test a link with.
-/

namespace FlightBus

/-! ### Heartbeat -/

/-- The status of a system, the enumeration `MAV_STATE`. -/
inductive SystemStatus
  | uninit
  | boot
  | calibrating
  | standby
  | active
  | critical
  | emergency
  | poweroff
  | flightTermination
deriving DecidableEq, Repr

namespace SystemStatus

/-- The number of a status on the wire. -/
def toByte : SystemStatus → UInt8
  | uninit => 0
  | boot => 1
  | calibrating => 2
  | standby => 3
  | active => 4
  | critical => 5
  | emergency => 6
  | poweroff => 7
  | flightTermination => 8

/-- The status of a number, if it is the number of one. -/
def ofByte? (b : UInt8) : Option SystemStatus :=
  [uninit, boot, calibrating, standby, active, critical, emergency, poweroff,
    flightTermination].find? (fun status => status.toByte = b)

/-- The name of a status. -/
def name : SystemStatus → String
  | uninit => "Uninit"
  | boot => "Boot"
  | calibrating => "Calibrating"
  | standby => "Standby"
  | active => "Active"
  | critical => "Critical"
  | emergency => "Emergency"
  | poweroff => "Poweroff"
  | flightTermination => "FlightTermination"

theorem ofByte?_toByte (status : SystemStatus) :
  ofByte? status.toByte = some status
  := by
  cases status <;> rfl

end SystemStatus

/-- The sign of life of a system. -/
structure Heartbeat where
  /-- A bit field that the autopilot defines. -/
  customMode : UInt32 := 0
  /-- The type of the vehicle or component. -/
  mavType : UInt8 := 0
  /-- The type of the autopilot. -/
  autopilot : UInt8 := 0
  /-- A bit field of system modes. -/
  baseMode : UInt8 := 0
  /-- The status of the system. -/
  systemStatus : SystemStatus := .uninit
  /-- The version of the protocol that the system speaks. -/
  mavlinkVersion : UInt8 := 0
deriving DecidableEq, Repr

namespace Heartbeat

/-- The protocol version that this library gives in its heartbeats. -/
def currentVersion : UInt8 := 3

/-- The format of a heartbeat. -/
def format : Format Heartbeat where
  name := "HEARTBEAT"
  id := MessageId.truncate 0
  minLength := 9
  maxLength := 9
  layout := [⟨"uint32_t", "custom_mode", 0⟩, ⟨"uint8_t", "type", 0⟩,
    ⟨"uint8_t", "autopilot", 0⟩, ⟨"uint8_t", "base_mode", 0⟩,
    ⟨"uint8_t", "system_status", 0⟩, ⟨"uint8_t", "mavlink_version", 0⟩]
  fields m := [.scalar .u32 m.customMode, .scalar .u8 m.mavType, .scalar .u8 m.autopilot,
    .scalar .u8 m.baseMode, .scalar .u8 m.systemStatus.toByte,
    .scalar .u8 m.mavlinkVersion]
  read := do
    let customMode ← FieldReader.scalar .u32
    let mavType ← FieldReader.scalar .u8
    let autopilot ← FieldReader.scalar .u8
    let baseMode ← FieldReader.scalar .u8
    let status ← FieldReader.scalar .u8
    let systemStatus ← FieldReader.require (SystemStatus.ofByte? status)
    let mavlinkVersion ← FieldReader.scalar .u8
    return ⟨customMode, mavType, autopilot, baseMode, systemStatus, mavlinkVersion⟩
  length_fields _ := rfl
  maxLength_le := by decide

end Heartbeat

/-! ### Link tests -/

/-- A message to test a link with. -/
structure LinkTest where
  /-- An arbitrary number. -/
  field1 : UInt32 := 0
  /-- An arbitrary floating-point number. -/
  field2 : Single := Single.zero
deriving DecidableEq, Repr

/-- The format of a link test. -/
def LinkTest.format : Format LinkTest where
  name := "TEST_MESSAGE"
  id := MessageId.truncate 9000
  minLength := 8
  maxLength := 8
  layout := [⟨"uint32_t", "field1", 0⟩, ⟨"float", "field2", 0⟩]
  fields m := [.scalar .u32 m.field1, .scalar .f32 m.field2]
  read := do
    let field1 ← FieldReader.scalar .u32
    let field2 ← FieldReader.scalar .f32
    return ⟨field1, field2⟩
  length_fields _ := rfl
  maxLength_le := by decide

/-! ### Inertial measurements -/

/-- The inertial measurement unit that a sample comes from. -/
inductive ImuUnit
  | imu16G
  | imu32G
deriving DecidableEq, Repr

namespace ImuUnit

/-- The number of a unit on the wire. -/
def toByte : ImuUnit → UInt8
  | imu16G => 0
  | imu32G => 1

/-- The unit of a number, if it is the number of one. -/
def ofByte? (b : UInt8) : Option ImuUnit :=
  [imu16G, imu32G].find? (fun device => device.toByte = b)

/-- The name of a unit. -/
def name : ImuUnit → String
  | imu16G => "Imu16G"
  | imu32G => "Imu32G"

theorem ofByte?_toByte (device : ImuUnit) :
  ofByte? device.toByte = some device
  := by
  cases device <;> rfl

end ImuUnit

/-- A sample of an accelerometer and a gyroscope in the body frame. -/
structure ImuSample where
  /-- The time of the sample in microseconds. -/
  timestampUs : Int64 := 0
  /-- The unit that took the sample. -/
  imu : ImuUnit := .imu16G
  /-- The acceleration along the first axis. -/
  accX : Single := Single.zero
  /-- The acceleration along the second axis. -/
  accY : Single := Single.zero
  /-- The acceleration along the third axis. -/
  accZ : Single := Single.zero
  /-- The angular rate about the first axis. -/
  gyroX : Single := Single.zero
  /-- The angular rate about the second axis. -/
  gyroY : Single := Single.zero
  /-- The angular rate about the third axis. -/
  gyroZ : Single := Single.zero
deriving DecidableEq, Repr

/-- The format of a sample.  On the wire the unit comes last. -/
def ImuSample.format : Format ImuSample where
  name := "SENSOR_6DOF_IMU"
  id := MessageId.truncate 9001
  minLength := 33
  maxLength := 33
  layout := [⟨"int64_t", "timestamp_us", 0⟩,
    ⟨"float", "acc_x_body_m_s2", 0⟩, ⟨"float", "acc_y_body_m_s2", 0⟩,
    ⟨"float", "acc_z_body_m_s2", 0⟩, ⟨"float", "gyro_x_body_rad_s", 0⟩,
    ⟨"float", "gyro_y_body_rad_s", 0⟩, ⟨"float", "gyro_z_body_rad_s", 0⟩,
    ⟨"uint8_t", "imu_id", 0⟩]
  fields m := [.scalar .i64 m.timestampUs, .scalar .f32 m.accX, .scalar .f32 m.accY,
    .scalar .f32 m.accZ, .scalar .f32 m.gyroX, .scalar .f32 m.gyroY,
    .scalar .f32 m.gyroZ, .scalar .u8 m.imu.toByte]
  read := do
    let timestampUs ← FieldReader.scalar .i64
    let accX ← FieldReader.scalar .f32
    let accY ← FieldReader.scalar .f32
    let accZ ← FieldReader.scalar .f32
    let gyroX ← FieldReader.scalar .f32
    let gyroY ← FieldReader.scalar .f32
    let gyroZ ← FieldReader.scalar .f32
    let device ← FieldReader.scalar .u8
    let imu ← FieldReader.require (ImuUnit.ofByte? device)
    return ⟨timestampUs, imu, accX, accY, accZ, gyroX, gyroY, gyroZ⟩
  length_fields _ := rfl
  maxLength_le := by decide

/-! ### Servo commands -/

/-- The commanded deflections of the four fin servos. -/
structure ServoCommand where
  /-- The time of the command in microseconds. -/
  timestampUs : Int64 := 0
  /-- The deflection of the first servo in degrees. -/
  s1 : Single := Single.zero
  /-- The deflection of the second servo in degrees. -/
  s2 : Single := Single.zero
  /-- The deflection of the third servo in degrees. -/
  s3 : Single := Single.zero
  /-- The deflection of the fourth servo in degrees. -/
  s4 : Single := Single.zero
deriving DecidableEq, Repr

/-- The format of a servo command. -/
def ServoCommand.format : Format ServoCommand where
  name := "SERVO_TARGET"
  id := MessageId.truncate 9002
  minLength := 24
  maxLength := 24
  layout := [⟨"int64_t", "timestamp_us", 0⟩, ⟨"float", "s1_target_deg", 0⟩,
    ⟨"float", "s2_target_deg", 0⟩, ⟨"float", "s3_target_deg", 0⟩,
    ⟨"float", "s4_target_deg", 0⟩]
  fields m := [.scalar .i64 m.timestampUs, .scalar .f32 m.s1, .scalar .f32 m.s2,
    .scalar .f32 m.s3, .scalar .f32 m.s4]
  read := do
    let timestampUs ← FieldReader.scalar .i64
    let s1 ← FieldReader.scalar .f32
    let s2 ← FieldReader.scalar .f32
    let s3 ← FieldReader.scalar .f32
    let s4 ← FieldReader.scalar .f32
    return ⟨timestampUs, s1, s2, s3, s4⟩
  length_fields _ := rfl
  maxLength_le := by decide

/-- The servo command for a sample: the first two accelerations and the first two angular
rates drive the four servos. -/
def ImuSample.toServoCommand (sample : ImuSample) : ServoCommand :=
  ⟨sample.timestampUs, sample.accX, sample.accY, sample.gyroX, sample.gyroY⟩

/-! ### The dialect -/

/-- The message types of the flight dialect. -/
inductive FlightKind
  | heartbeat
  | linkTest
  | imu
  | servo
deriving DecidableEq, Repr

/-- The flight dialect. -/
abbrev flight : Dialect where
  Kind := FlightKind
  decEq := inferInstance
  Value
    | .heartbeat => Heartbeat
    | .linkTest => LinkTest
    | .imu => ImuSample
    | .servo => ServoCommand
  format
    | .heartbeat => Heartbeat.format
    | .linkTest => LinkTest.format
    | .imu => ImuSample.format
    | .servo => ServoCommand.format

end FlightBus
