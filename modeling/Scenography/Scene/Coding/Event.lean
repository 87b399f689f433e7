import Scenography.Json.Coding
import Scenography.Scene.Action

namespace Scenography

open Coded Json

instance : Coded Authored where
  encode a := str a.raw
  decode?
    | str s => some ⟨s⟩
    | _ => none

def Edge.key : Edge → String
  | rising => "rising"
  | falling => "falling"
  | either => "rising_or_falling"
  | none => "none"

def Edge.all : List Edge :=
  [.rising, .falling, .either, .none]

instance : Coded Edge where
  encode c := str c.key
  decode? := choose? Edge.all Edge.key

def Comparison.all : List Comparison :=
  [.eq, .lt, .gt, .le, .ge]

instance : Coded Comparison where
  encode c := str c.label
  decode? := choose? Comparison.all Comparison.label

def DistanceMode.key : DistanceMode → String
  | none => "none"
  | alongLane => "lane_projection"
  | straight => "euclidean"

def DistanceMode.all : List DistanceMode :=
  [.none, .alongLane, .straight]

instance : Coded DistanceMode where
  encode c := str c.key
  decode? := choose? DistanceMode.all DistanceMode.key

def SpeedFrame.key : SpeedFrame → String
  | absolute => "absolute"
  | relative => "relative"

def SpeedFrame.all : List SpeedFrame :=
  [.absolute, .relative]

instance : Coded SpeedFrame where
  encode c := str c.key
  decode? := choose? SpeedFrame.all SpeedFrame.key

def GeoPoint.members : List String :=
  ["lon", "lat", "alt"]

instance : Coded GeoPoint where
  encode x := record GeoPoint.members [encode x.lon, encode x.lat, encode x.alt]
  decode? j := match record? GeoPoint.members j with
    | some [a, b, c] => do some ⟨← field? a, ← field? b, ← field? c⟩
    | _ => none

def Goal.worldMembers : List String :=
  ["point", "tolerance"]

def Goal.laneMembers : List String :=
  ["road_id", "lane_id", "s", "offset", "tolerance"]

instance : Coded Goal where
  encode
    | .world a b => tagged "type" "world" (record Goal.worldMembers [encode a, encode b])
    | .lane a b c d e =>
      tagged "type" "lane" (record Goal.laneMembers
        [encode a, encode b, encode c, encode d, encode e])
  decode? j := match tagAmong? "type" ["world", "lane"] j with
    | some ("world", rest) => match record? Goal.worldMembers rest with
      | some [a, b] => do some (.world (← field? a) (← field? b))
      | _ => none
    | some ("lane", rest) => match record? Goal.laneMembers rest with
      | some [a, b, c, d, e] => do
        some (.lane (← field? a) (← field? b) (← field? c) (← field? d) (← field? e))
      | _ => none
    | _ => none

def Test.timeMembers : List String :=
  ["rule", "value"]

def Test.laneAttachMembers : List String :=
  ["parameter_ref", "rule", "road", "section", "lane"]

def Test.elementStateMembers : List String :=
  ["element_type", "element_ref", "state"]

def Test.timeToCollisionMembers : List String :=
  ["source", "target", "rule", "value", "distance_mode"]

def Test.distanceMembers : List String :=
  ["source", "target", "rule", "value", "distance_mode"]

def Test.pointMembers : List String :=
  ["source", "point", "distance", "radius"]

def Test.reachMembers : List String :=
  ["source", "position"]

def Test.speedMembers : List String :=
  ["source", "target", "speed_type", "rule", "value", "unit"]

def Test.headwayMembers : List String :=
  ["source", "target", "rule", "value"]

instance : Coded Test where
  encode
    | .time a b => tagged "kind" "simulation_time" (record Test.timeMembers [encode a, encode b])
    | .laneAttach a b c d e =>
      tagged "kind" "lane_attach" (record Test.laneAttachMembers
        [encode a, encode b, encode c, encode d, encode e])
    | .elementState a b c =>
      tagged "kind" "element_state" (record Test.elementStateMembers
        [encode a, encode b, encode c])
    | .timeToCollision a b c d e =>
      tagged "kind" "time_to_collision" (record Test.timeToCollisionMembers
        [encode a, encode b, encode c, encode d, encode e])
    | .distance a b c d e =>
      tagged "kind" "relative_distance" (record Test.distanceMembers
        [encode a, encode b, encode c, encode d, encode e])
    | .point a b c d =>
      tagged "kind" "distance_to_point" (record Test.pointMembers
        [encode a, encode b, encode c, encode d])
    | .reach a b => tagged "kind" "reach_position" (record Test.reachMembers [encode a, encode b])
    | .speed a b c d e f =>
      tagged "kind" "speed" (record Test.speedMembers
        [encode a, encode b, encode c, encode d, encode e, encode f])
    | .headway a b c d =>
      tagged "kind" "time_headway" (record Test.headwayMembers
        [encode a, encode b, encode c, encode d])
  decode? j := match tag? "kind" j with
    | some ("simulation_time", rest) => match record? Test.timeMembers rest with
      | some [a, b] => do some (.time (← field? a) (← field? b))
      | _ => none
    | some ("lane_attach", rest) => match record? Test.laneAttachMembers rest with
      | some [a, b, c, d, e] => do
        some (.laneAttach (← field? a) (← field? b) (← field? c) (← field? d) (← field? e))
      | _ => none
    | some ("element_state", rest) => match record? Test.elementStateMembers rest with
      | some [a, b, c] => do some (.elementState (← field? a) (← field? b) (← field? c))
      | _ => none
    | some ("time_to_collision", rest) => match record? Test.timeToCollisionMembers rest with
      | some [a, b, c, d, e] => do
        some (.timeToCollision (← field? a) (← field? b) (← field? c) (← field? d) (← field? e))
      | _ => none
    | some ("relative_distance", rest) => match record? Test.distanceMembers rest with
      | some [a, b, c, d, e] => do
        some (.distance (← field? a) (← field? b) (← field? c) (← field? d) (← field? e))
      | _ => none
    | some ("distance_to_point", rest) => match record? Test.pointMembers rest with
      | some [a, b, c, d] => do some (.point (← field? a) (← field? b) (← field? c) (← field? d))
      | _ => none
    | some ("reach_position", rest) => match record? Test.reachMembers rest with
      | some [a, b] => do some (.reach (← field? a) (← field? b))
      | _ => none
    | some ("speed", rest) => match record? Test.speedMembers rest with
      | some [a, b, c, d, e, f] => do
        some (.speed (← field? a) (← field? b) (← field? c) (← field? d) (← field? e) (← field? f))
      | _ => none
    | some ("time_headway", rest) => match record? Test.headwayMembers rest with
      | some [a, b, c, d] => do
        some (.headway (← field? a) (← field? b) (← field? c) (← field? d))
      | _ => none
    | _ => none

def Condition.members : List String :=
  ["name", "delay", "boundary_edge", "trigger_count", "trigger"]

instance : Coded Condition where
  encode x := record Condition.members [encode x.name, encode x.delay, encode x.edge,
    encode x.count, encode x.test]
  decode? j := match record? Condition.members j with
    | some [a, b, c, d, e] => do some ⟨← field? a, ← field? b, ← field? c, ← field? d, ← field? e⟩
    | _ => none

def Ending.timeMembers : List String :=
  ["seconds"]

def Ending.speedMembers : List String :=
  ["target"]

instance : Coded Ending where
  encode
    | .none => tagged "type" "none" (obj [])
    | .time a => tagged "type" "time" (record Ending.timeMembers [encode a])
    | .speed a => tagged "type" "velocity" (record Ending.speedMembers [encode a])
  decode? j := match tag? "type" j with
    | some ("none", rest) => (bare? rest).map fun _ => .none
    | some ("time", rest) => match record? Ending.timeMembers rest with
      | some [a] => do some (.time (← field? a))
      | _ => none
    | some ("velocity", rest) => match record? Ending.speedMembers rest with
      | some [a] => do some (.speed (← field? a))
      | _ => none
    | _ => none

def LaneDirection.key : LaneDirection → String
  | left => "left"
  | right => "right"
  | leftInLane => "left_in_lane"
  | rightInLane => "right_in_lane"
  | none => "none"

def LaneDirection.all : List LaneDirection :=
  [.left, .right, .leftInLane, .rightInLane, .none]

instance : Coded LaneDirection where
  encode c := str c.key
  decode? := choose? LaneDirection.all LaneDirection.key

def MotionLimits.members : List String :=
  ["max_acceleration", "max_deceleration", "max_speed"]

instance : Coded MotionLimits where
  encode x := record MotionLimits.members [encode x.maxAcceleration, encode x.maxDeceleration,
    encode x.maxSpeed]
  decode? j := match record? MotionLimits.members j with
    | some [a, b, c] => do some ⟨← field? a, ← field? b, ← field? c⟩
    | _ => none

def ControllerMode.key : ControllerMode → String
  | off => "off"
  | lateral => "lateral"
  | longitudinal => "longitudinal"
  | autopilot => "autopilot"

def ControllerMode.all : List ControllerMode :=
  [.off, .lateral, .longitudinal, .autopilot]

instance : Coded ControllerMode where
  encode c := str c.key
  decode? := choose? ControllerMode.all ControllerMode.key

def AssistSwitches.members : List String :=
  ["resume_sw", "cancel_sw", "speed_inc_sw", "speed_dec_sw", "set_timegap", "set_speed"]

instance : Coded AssistSwitches where
  encode x := record AssistSwitches.members [encode x.resume, encode x.cancel, encode x.faster,
    encode x.slower, encode x.timeGap, encode x.setSpeed]
  decode? j := match record? AssistSwitches.members j with
    | some [a, b, c, d, e, f] => do
      some ⟨← field? a, ← field? b, ← field? c, ← field? d, ← field? e, ← field? f⟩
    | _ => none

def Overrides.members : List String :=
  ["throttle", "brake", "clutch", "parking_brake", "steering_wheel", "gear"]

instance : Coded Overrides where
  encode x := record Overrides.members [encode x.throttle, encode x.brake, encode x.clutch,
    encode x.parkingBrake, encode x.steeringWheel, encode x.gear]
  decode? j := match record? Overrides.members j with
    | some [a, b, c, d, e, f] => do
      some ⟨← field? a, ← field? b, ← field? c, ← field? d, ← field? e, ← field? f⟩
    | _ => none

def Channel.key : Channel → String
  | command => "command"
  | status => "status"

def Channel.all : List Channel :=
  [.command, .status]

instance : Coded Channel where
  encode c := str c.key
  decode? := choose? Channel.all Channel.key

def CommandKind.all : List CommandKind :=
  [.laneChange, .overtaking, .pullOver, .emergencyStop, .lateralSpeedToLeft, .lateralSpeedToRight,
    .lateralAccelToLeft, .lateralAccelToRight, .userDefine, .emergencyBrake, .vehicleLostControl,
    .handsOnSteeringwheel, .eyesOnRoad, .lidar, .radar, .ultrasonic, .camera, .gnss, .imu,
    .localization, .beam, .brakeLight, .hazardLight, .leftTurnLight, .rightTurnLight,
    .driverSeatbelt, .passengerSeatbelt, .driverDoor, .passengerDoor, .hood, .trunk,
    .parkingBrake, .wiper, .gear, .key]

instance : Coded CommandKind where
  encode c := str c.label
  decode? := choose? CommandKind.all CommandKind.label

def RouteKind.key : RouteKind → String
  | implicit => "implicit"
  | assigned => "assigned"
  | trajectory => "trajectory"
  | acquired => "acquire_position"
  | approach => "signal_approach"

def RouteKind.all : List RouteKind :=
  [.implicit, .assigned, .trajectory, .acquired, .approach]

instance : Coded RouteKind where
  encode c := str c.key
  decode? := choose? RouteKind.all RouteKind.key

def Effect.rampMembers : List String :=
  ["rate"]

def Effect.stepMembers : List String :=
  ["value"]

def Effect.laneChangeMembers : List String :=
  ["direction", "target_lane", "duration", "offset"]

def Effect.keepDistanceMembers : List String :=
  ["target", "distance", "continuous", "constraints"]

def Effect.activateMembers : List String :=
  ["mode"]

def Effect.assignMembers : List String :=
  ["controller", "slots"]

def Effect.overrideMembers : List String :=
  ["overrides"]

def Effect.commandMembers : List String :=
  ["channel", "command", "value", "offset"]

def Effect.rerouteMembers : List String :=
  ["route_id", "route_kind"]

instance : Coded Effect where
  encode
    | .ramp a => tagged "kind" "acceleration_ramp" (record Effect.rampMembers [encode a])
    | .step a => tagged "kind" "velocity_step" (record Effect.stepMembers [encode a])
    | .laneChange a b c d =>
      tagged "kind" "lane_change" (record Effect.laneChangeMembers
        [encode a, encode b, encode c, encode d])
    | .keepDistance a b c d =>
      tagged "kind" "lateral_distance_keep" (record Effect.keepDistanceMembers
        [encode a, encode b, encode c, encode d])
    | .activate a =>
      tagged "kind" "controller_activate" (record Effect.activateMembers [encode a])
    | .assign a b =>
      tagged "kind" "controller_assign" (record Effect.assignMembers [encode a, encode b])
    | .override a =>
      tagged "kind" "controller_override" (record Effect.overrideMembers [encode a])
    | .command a b c d =>
      tagged "kind" "command" (record Effect.commandMembers
        [encode a, encode b, encode c, encode d])
    | .reroute a b => tagged "kind" "reroute" (record Effect.rerouteMembers [encode a, encode b])
  decode? j := match tag? "kind" j with
    | some ("acceleration_ramp", rest) => match record? Effect.rampMembers rest with
      | some [a] => do some (.ramp (← field? a))
      | _ => none
    | some ("velocity_step", rest) => match record? Effect.stepMembers rest with
      | some [a] => do some (.step (← field? a))
      | _ => none
    | some ("lane_change", rest) => match record? Effect.laneChangeMembers rest with
      | some [a, b, c, d] => do
        some (.laneChange (← field? a) (← field? b) (← field? c) (← field? d))
      | _ => none
    | some ("lateral_distance_keep", rest) => match record? Effect.keepDistanceMembers rest with
      | some [a, b, c, d] => do
        some (.keepDistance (← field? a) (← field? b) (← field? c) (← field? d))
      | _ => none
    | some ("controller_activate", rest) => match record? Effect.activateMembers rest with
      | some [a] => do some (.activate (← field? a))
      | _ => none
    | some ("controller_assign", rest) => match record? Effect.assignMembers rest with
      | some [a, b] => do some (.assign (← field? a) (← field? b))
      | _ => none
    | some ("controller_override", rest) => match record? Effect.overrideMembers rest with
      | some [a] => do some (.override (← field? a))
      | _ => none
    | some ("command", rest) => match record? Effect.commandMembers rest with
      | some [a, b, c, d] => do
        some (.command (← field? a) (← field? b) (← field? c) (← field? d))
      | _ => none
    | some ("reroute", rest) => match record? Effect.rerouteMembers rest with
      | some [a, b] => do some (.reroute (← field? a) (← field? b))
      | _ => none
    | _ => none

def Action.members : List String :=
  ["name", "id", "effect", "end_condition"]

instance : Coded Action where
  encode x := record Action.members [encode x.name, encode x.id, encode x.effect, encode x.ending]
  decode? j := match record? Action.members j with
    | some [a, b, c, d] => do some ⟨← field? a, ← field? b, ← field? c, ← field? d⟩
    | _ => none

def Event.members : List String :=
  ["id", "name", "owner", "conditions", "actions", "is_user_defined"]

instance : Coded Event where
  encode x := record Event.members [encode x.id, encode x.name, encode x.owner,
    encode x.conditions, encode x.actions, encode x.isUserDefined]
  decode? j := match record? Event.members j with
    | some [a, b, c, d, e, f] => do
      some ⟨← field? a, ← field? b, ← field? c, ← field? d, ← field? e, ← field? f⟩
    | _ => none

end Scenography
