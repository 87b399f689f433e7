import Scenography.Text.Blank

namespace Scenography

inductive EntityKind
  | ego | vehicle | pedestrian | obstacle
deriving DecidableEq, Repr

def EntityKind.tagLead : EntityKind → String
  | ego => "ego_"
  | vehicle => "v_"
  | pedestrian => "p_"
  | obstacle => "o_"

inductive Behavior
  | scripted | traffic | trajectory | arterial
deriving DecidableEq, Repr, Inhabited

namespace Behavior

def ofText? (raw : String) : Option Behavior :=
  match Text.trim raw with
  | "UserDefine" => some scripted
  | "TrafficVehicle" => some traffic
  | "TrajectoryFollow" => some trajectory
  | "TrafficVehicleArterial" => some arterial
  | _ => none

/-- Autonomous traffic has no timelines. -/
def feedsTimelines : Behavior → Bool
  | scripted => true
  | trajectory => true
  | traffic => false
  | arterial => false

def label : Behavior → String
  | scripted => "UserDefined"
  | traffic => "TrafficAutonomous"
  | trajectory => "TrajectoryFollow"
  | arterial => "ArterialTraffic"

end Behavior

structure Box where
  length : Float
  width : Float
  height : Float

namespace Box

def ofVehicle : Box := ⟨4.76, 2.05, 1.44⟩

def ofObstacle : Box := ⟨0.75, 0.75, 0.75⟩

end Box

structure Performance where
  maxSpeed : Float := 0.0
  maxAcceleration : Float := 0.0
  maxDeceleration : Float := 0.0

structure Pose where
  lon : Float
  lat : Float
  alt : Float
  /-- In radians. -/
  heading : Float
  road : Option UInt64
  lane : Int64
  shift : Float
  offset : Float
  /-- In degrees, from 0 up to 360. -/
  angle : Float

structure EgoProfile where
  group : String
  category : String
  performance : Performance
  followsTrajectory : Bool
  sensors : Option String
  tracking : Option String
  controller : Option String
  lateral : Bool := false
  longitudinal : Bool := false

structure VehicleProfile where
  performance : Performance
  aggress : Option String
  follow : Option String
  angle : Option Float
  tracking : Option String
  sensors : Option String
  onboardUnit : Option String

structure PedestrianProfile where
  startTime : Float
  endTime : Float
  angle : Option Float
  tracking : Option String

inductive Profile
  | ego (p : EgoProfile)
  | vehicle (p : VehicleProfile)
  | pedestrian (p : PedestrianProfile)
  | obstacle

namespace Profile

def kind : Profile → EntityKind
  | ego _ => .ego
  | vehicle _ => .vehicle
  | pedestrian _ => .pedestrian
  | obstacle => .obstacle

def angle? : Profile → Option Float
  | vehicle p => p.angle
  | pedestrian p => p.angle
  | ego _ => none
  | obstacle => none

end Profile

structure Entity where
  id : Nat
  name : String
  type : String
  box : Box
  behavior : Behavior
  pose : Option Pose := none
  route : Option Nat := none
  startSpeed : Float := 0.0
  maxSpeed : Float := 0.0
  events : List Nat := []
  rampTimeline : Option String := none
  mergeTimeline : Option String := none
  profile : Profile

namespace Entity

def kind (e : Entity) : EntityKind :=
  e.profile.kind

def tag (e : Entity) : String :=
  e.kind.tagLead ++ toString e.id

end Entity

end Scenography
