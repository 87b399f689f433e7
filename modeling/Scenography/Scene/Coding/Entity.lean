import Scenography.Json.Coding
import Scenography.Scene.Dialect
import Scenography.Scene.Entity
import Scenography.Scene.Parameter

namespace Scenography

open Coded Json

def Dialect.key : Dialect → String
  | legacy => "tad_sim_legacy"
  | v2 => "tad_sim_v2"
  | v22 => "tad_sim_v22"
  | other => "other"

def Dialect.all : List Dialect :=
  [.legacy, .v2, .v22, .other]

instance : Coded Dialect where
  encode c := str c.key
  decode? := choose? Dialect.all Dialect.key

def ParameterKind.key : ParameterKind → String
  | string => "string"
  | double => "double"
  | int => "int"
  | boolean => "boolean"

def ParameterKind.all : List ParameterKind :=
  [.string, .double, .int, .boolean]

instance : Coded ParameterKind where
  encode c := str c.key
  decode? := choose? ParameterKind.all ParameterKind.key

def Parameter.members : List String :=
  ["name", "kind", "value"]

instance : Coded Parameter where
  encode x := record Parameter.members [encode x.name, encode x.kind, encode x.value]
  decode? j := match record? Parameter.members j with
    | some [a, b, c] => do some ⟨← field? a, ← field? b, ← field? c⟩
    | _ => none

def Behavior.key : Behavior → String
  | scripted => "user_defined"
  | traffic => "traffic_autonomous"
  | trajectory => "trajectory_follow"
  | arterial => "arterial_traffic"

def Behavior.all : List Behavior :=
  [.scripted, .traffic, .trajectory, .arterial]

instance : Coded Behavior where
  encode c := str c.key
  decode? := choose? Behavior.all Behavior.key

def Box.members : List String :=
  ["length", "width", "height"]

instance : Coded Box where
  encode x := record Box.members [encode x.length, encode x.width, encode x.height]
  decode? j := match record? Box.members j with
    | some [a, b, c] => do some ⟨← field? a, ← field? b, ← field? c⟩
    | _ => none

def Performance.members : List String :=
  ["max_speed", "max_acceleration", "max_deceleration"]

instance : Coded Performance where
  encode x := record Performance.members [encode x.maxSpeed, encode x.maxAcceleration,
    encode x.maxDeceleration]
  decode? j := match record? Performance.members j with
    | some [a, b, c] => do some ⟨← field? a, ← field? b, ← field? c⟩
    | _ => none

def Pose.members : List String :=
  ["lon", "lat", "alt", "heading", "road_id", "lane_id", "start_shift", "offset", "start_angle"]

instance : Coded Pose where
  encode x := record Pose.members [encode x.lon, encode x.lat, encode x.alt, encode x.heading,
    encode x.road, encode x.lane, encode x.shift, encode x.offset, encode x.angle]
  decode? j := match record? Pose.members j with
    | some [a, b, c, d, e, f, g, h, i] => do
      some ⟨← field? a, ← field? b, ← field? c, ← field? d, ← field? e, ← field? f, ← field? g,
        ← field? h, ← field? i⟩
    | _ => none

def EgoProfile.members : List String :=
  ["group_name", "category", "performance", "trajectory_enabled", "sensor_group",
    "trajectory_tracking", "controller_name", "lateral_control", "longitudinal_control"]

instance : Coded EgoProfile where
  encode x := record EgoProfile.members [encode x.group, encode x.category, encode x.performance,
    encode x.followsTrajectory, encode x.sensors, encode x.tracking, encode x.controller,
    encode x.lateral, encode x.longitudinal]
  decode? j := match record? EgoProfile.members j with
    | some [a, b, c, d, e, f, g, h, i] => do
      some ⟨← field? a, ← field? b, ← field? c, ← field? d, ← field? e, ← field? f, ← field? g,
        ← field? h, ← field? i⟩
    | _ => none

def VehicleProfile.members : List String :=
  ["performance", "aggress", "follow", "trajectory_angle", "trajectory_tracking", "sensor_group",
    "obu_status"]

instance : Coded VehicleProfile where
  encode x := record VehicleProfile.members [encode x.performance, encode x.aggress,
    encode x.follow, encode x.angle, encode x.tracking, encode x.sensors, encode x.onboardUnit]
  decode? j := match record? VehicleProfile.members j with
    | some [a, b, c, d, e, f, g] => do
      some ⟨← field? a, ← field? b, ← field? c, ← field? d, ← field? e, ← field? f, ← field? g⟩
    | _ => none

def PedestrianProfile.members : List String :=
  ["start_time", "end_time", "angle", "trajectory_tracking"]

instance : Coded PedestrianProfile where
  encode x := record PedestrianProfile.members [encode x.startTime, encode x.endTime,
    encode x.angle, encode x.tracking]
  decode? j := match record? PedestrianProfile.members j with
    | some [a, b, c, d] => do some ⟨← field? a, ← field? b, ← field? c, ← field? d⟩
    | _ => none

instance : Coded Profile where
  encode
    | .ego p => tagged "kind" "ego" (encode p)
    | .vehicle p => tagged "kind" "vehicle" (encode p)
    | .pedestrian p => tagged "kind" "pedestrian" (encode p)
    | .obstacle => tagged "kind" "obstacle" (obj [])
  decode? j := match tag? "kind" j with
    | some ("ego", rest) => (decode? rest).map .ego
    | some ("vehicle", rest) => (decode? rest).map .vehicle
    | some ("pedestrian", rest) => (decode? rest).map .pedestrian
    | some ("obstacle", rest) => (bare? rest).map fun _ => .obstacle
    | _ => none

def Entity.members : List String :=
  ["id", "display_name", "type_ref", "bounding_box", "behavior_kind", "placement", "route_id",
    "start_velocity", "max_velocity", "event_ids", "acc_track_id", "merge_track_id", "profile"]

instance : Coded Entity where
  encode x := record Entity.members [encode x.id, encode x.name, encode x.type, encode x.box,
    encode x.behavior, encode x.pose, encode x.route, encode x.startSpeed, encode x.maxSpeed,
    encode x.events, encode x.rampTimeline, encode x.mergeTimeline, encode x.profile]
  decode? j := match record? Entity.members j with
    | some [a, b, c, d, e, f, g, h, i, j, k, l, m] => do
      some ⟨← field? a, ← field? b, ← field? c, ← field? d, ← field? e, ← field? f, ← field? g,
        ← field? h, ← field? i, ← field? j, ← field? k, ← field? l, ← field? m⟩
    | _ => none

end Scenography
