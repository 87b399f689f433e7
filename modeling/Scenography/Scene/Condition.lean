import Scenography.Number.Authored

namespace Scenography

inductive Edge
  | rising | falling | either | none
deriving DecidableEq, Repr

def Edge.ofText (raw : Option String) : Edge :=
  match raw.map Text.trim with
  | some "rising" => rising
  | some "falling" => falling
  | some "risingOrFalling" => either
  | _ => none

inductive Comparison
  | eq | lt | gt | le | ge
deriving DecidableEq, Repr

def Comparison.label : Comparison → String
  | eq => "eq"
  | lt => "lt"
  | gt => "gt"
  | le => "lte"
  | ge => "gte"

inductive DistanceMode
  | none | alongLane | straight
deriving DecidableEq, Repr

def DistanceMode.label : DistanceMode → String
  | none => "none"
  | alongLane => "laneprojection"
  | straight => "euclideandistance"

inductive SpeedFrame
  | absolute | relative
deriving DecidableEq, Repr

structure GeoPoint where
  lon : Float
  lat : Float
  alt : Float

inductive Goal
  | world (point : GeoPoint) (tolerance : Float)
  | lane (road lane : String) (s offset tolerance : Float)

inductive Test
  | time (rule : Comparison) (value : Authored)
  | laneAttach (parameter : String) (rule : Comparison) (road laneSection lane : String)
  | elementState (kind reference state : String)
  | timeToCollision (source target : String) (rule : Comparison) (value : Authored) (mode : DistanceMode)
  | distance (source target : String) (rule : Comparison) (value : Authored) (mode : DistanceMode)
  | point (source : String) (point : GeoPoint) (distance : Authored) (radius : Float)
  | reach (source : String) (goal : Goal)
  | speed (source : String) (target : Option String) (frame : SpeedFrame) (rule : Comparison)
      (value : Authored) (unit : String)
  | headway (source target : String) (rule : Comparison) (value : Authored)

/-- The simulator's name of what a condition looks at. -/
def Test.label : Test → String
  | time .. => "time_trigger"
  | laneAttach .. => "ego_attach_laneid_custom"
  | elementState .. => "element_state"
  | timeToCollision .. => "ttc_trigger"
  | distance .. => "distance_trigger"
  | point .. => "reach_abs_position"
  | reach _ (.world ..) => "reach_abs_position"
  | reach _ (.lane ..) => "reach_abs_lane"
  | speed .. => "velocity_trigger"
  | headway .. => "timeheadway_trigger"

structure Condition where
  name : String
  delay : Float
  edge : Edge
  count : Nat
  test : Test

end Scenography
