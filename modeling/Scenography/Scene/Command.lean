import Scenography.Text.Blank
import Scenography.Text.Split
import Scenography.Journal

namespace Scenography

inductive Channel
  | command | status
deriving DecidableEq, Repr

def Channel.ofText? (raw : String) : Option Channel :=
  match Text.trim raw with
  | "Command" => some command
  | "Status" => some status
  | _ => none

inductive CommandKind
  | laneChange | overtaking | pullOver | emergencyStop | lateralSpeedToLeft | lateralSpeedToRight
  | lateralAccelToLeft | lateralAccelToRight | userDefine | emergencyBrake | vehicleLostControl
  | handsOnSteeringwheel | eyesOnRoad | lidar | radar | ultrasonic | camera | gnss | imu
  | localization | beam | brakeLight | hazardLight | leftTurnLight | rightTurnLight
  | driverSeatbelt | passengerSeatbelt | driverDoor | passengerDoor | hood | trunk | parkingBrake
  | wiper | gear | key
deriving DecidableEq, Repr

namespace CommandKind

def label : CommandKind → String
  | laneChange => "lane_change"
  | overtaking => "overtaking"
  | pullOver => "pull_over"
  | emergencyStop => "emergency_stop"
  | lateralSpeedToLeft => "lateral_speed_to_left"
  | lateralSpeedToRight => "lateral_speed_to_right"
  | lateralAccelToLeft => "lateral_accel_to_left"
  | lateralAccelToRight => "lateral_accel_to_right"
  | userDefine => "userdefine"
  | emergencyBrake => "emergency_brake"
  | vehicleLostControl => "vehicle_lost_control"
  | handsOnSteeringwheel => "hands_on_steeringwheel"
  | eyesOnRoad => "eyes_on_road"
  | lidar => "lidar"
  | radar => "radar"
  | ultrasonic => "ultrasonic"
  | camera => "camera"
  | gnss => "gnss"
  | imu => "imu"
  | localization => "localization"
  | beam => "beam"
  | brakeLight => "brake_light"
  | hazardLight => "hazard_light"
  | leftTurnLight => "left_turn_light"
  | rightTurnLight => "right_turn_light"
  | driverSeatbelt => "driver_seatbelt"
  | passengerSeatbelt => "passenger_seatbelt"
  | driverDoor => "driver_door"
  | passengerDoor => "passenger_door"
  | hood => "hood"
  | trunk => "trunk"
  | parkingBrake => "parkingbrake"
  | wiper => "wiper"
  | gear => "gear"
  | key => "key"

def ofCommandName : List (String × CommandKind) :=
  [("LaneChange", .laneChange), ("Overtaking", .overtaking), ("PullOver", .pullOver),
    ("EmergencyStop", .emergencyStop), ("LateralSpeedToLeft", .lateralSpeedToLeft),
    ("LateralSpeedToRight", .lateralSpeedToRight), ("LateralAccelToLeft", .lateralAccelToLeft),
    ("LateralAccelToRight", .lateralAccelToRight)]

def ofStatusName : List (String × CommandKind) :=
  [("EmergencyBrake", .emergencyBrake), ("VehicleLostControl", .vehicleLostControl),
    ("HandsOnSteeringwheel", .handsOnSteeringwheel), ("EyesOnRoad", .eyesOnRoad),
    ("Lidar", .lidar), ("Radar", .radar), ("Ultrasonic", .ultrasonic), ("Camera", .camera),
    ("Gnss", .gnss), ("Imu", .imu), ("Localization", .localization), ("Beam", .beam),
    ("BrakeLight", .brakeLight), ("HazardLight", .hazardLight), ("LeftTurnLight", .leftTurnLight),
    ("RightTurnLight", .rightTurnLight), ("DriverSeatbelt", .driverSeatbelt),
    ("PassengerSeatbelt", .passengerSeatbelt), ("DriverDoor", .driverDoor),
    ("PassengerDoor", .passengerDoor), ("Hood", .hood), ("Trunk", .trunk),
    ("ParkingBrake", .parkingBrake), ("Wiper", .wiper), ("Gear", .gear), ("Key", .key)]

def named (channel : Channel) : List (String × CommandKind) :=
  ("UserDefine", userDefine) :: match channel with
    | .command => ofCommandName
    | .status => ofStatusName

def ofName? (channel : Channel) (name : String) : Option CommandKind :=
  ((named channel).find? (·.1 = name)).map (·.2)

def isLateral : CommandKind → Bool
  | lateralSpeedToLeft => true
  | lateralSpeedToRight => true
  | lateralAccelToLeft => true
  | lateralAccelToRight => true
  | _ => false

def hasOffset : CommandKind → Bool
  | laneChange => true
  | overtaking => true
  | _ => false

end CommandKind

structure Command where
  kind : CommandKind
  value : String
  offset : String
deriving DecidableEq, Repr

namespace Command

def fieldValue (field : String) : String :=
  match Text.cut? '=' field with
  | some (_, value) => Text.trim value
  | none => ""

def payloadEnd : List Char :=
  ",value=0.0".toList

def dropEnd (ending cs : List Char) : List Char :=
  if ending.isSuffixOf cs then cs.take (cs.length - ending.length) else cs

def payload (body : String) : String :=
  match Text.cut? '=' body with
  | some (_, rest) => String.ofList (dropEnd payloadEnd rest.toList)
  | none => ""

/-- The values of a body's first two fields; a second `:` ends the fields. -/
def fields (body : String) : String × String :=
  match (Text.split ',' ((Text.split ':' body).headD "")).map fieldValue with
  | [] => ("", "")
  | [value] => (value, "")
  | value :: offset :: _ => (value, offset)

def ofBody (kind : CommandKind) (body : String) : Command :=
  let (value, offset) := fields body
  if kind = .userDefine then ⟨kind, payload body, ""⟩
  else if kind.isLateral then ⟨kind, offset, ""⟩
  else if kind.hasOffset then ⟨kind, value, offset⟩
  else ⟨kind, value, ""⟩

/-- Reads `Kind:field=value,field=value`. -/
def read (channel : Channel) (raw : String) : Except Fault Command :=
  let text := Text.trim raw
  match Text.cut? ':' text with
  | none => .error (.unknownCommand text)
  | some (name, body) =>
    match CommandKind.ofName? channel (Text.trim name) with
    | none => .error (.unknownCommand (Text.trim name))
    | some kind => .ok (ofBody kind body)

end Command

end Scenography
