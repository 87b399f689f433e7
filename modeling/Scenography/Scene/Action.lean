import Scenography.Scene.Command
import Scenography.Scene.Condition
import Scenography.Scene.Dialect
import Scenography.Scene.Route

namespace Scenography

inductive Ending
  | none
  | time (seconds : Float)
  | speed (target : Float)

inductive LaneDirection
  | left | right | leftInLane | rightInLane | none
deriving DecidableEq, Repr

/-- A target lane decides where the change goes, an offset only within the lane. -/
def LaneDirection.of (dialect : Dialect) (target offset : Float) : LaneDirection :=
  let leftward (x : Float) : Bool := if dialect.countsRightward then x < 0.0 else 0.0 < x
  if target != 0.0 then if leftward target then left else right
  else if offset == 0.0 then none
  else if leftward offset then leftInLane else rightInLane

structure MotionLimits where
  maxAcceleration : Option Authored
  maxDeceleration : Option Authored
  maxSpeed : Option Authored

inductive ControllerMode
  | off | lateral | longitudinal | autopilot
deriving DecidableEq, Repr

def ControllerMode.ofAxes : (lateral longitudinal : Bool) → ControllerMode
  | false, false => off
  | true, false => lateral
  | false, true => longitudinal
  | true, true => autopilot

structure AssistSwitches where
  resume : Option String := none
  cancel : Option String := none
  faster : Option String := none
  slower : Option String := none
  timeGap : Option String := none
  setSpeed : Option String := none

/-- Settings of the actuators by hand, each `active;value`. -/
structure Overrides where
  throttle : String
  brake : String
  clutch : String
  parkingBrake : String
  steeringWheel : String
  gear : String

inductive Effect
  | ramp (rate : Authored)
  | step (value : Authored)
  | laneChange (direction : LaneDirection) (target duration offset : Authored)
  | keepDistance (target : String) (distance : Authored) (continuous : Bool)
      (limits : Option MotionLimits)
  | activate (mode : ControllerMode)
  | assign (controller : String) (switches : AssistSwitches)
  | override (overrides : Overrides)
  | command (channel : Channel) (kind : CommandKind) (value offset : String)
  | reroute (route : Option Nat) (kind : RouteKind)

def Effect.onRoute (route : Option Nat) : Effect → Effect
  | .reroute _ kind => .reroute route kind
  | e => e

structure Action where
  name : String
  id : Option Nat := none
  effect : Effect
  ending : Ending := .none

structure Event where
  id : Nat
  name : String
  owner : String
  conditions : List Condition
  actions : List Action
  isUserDefined : Bool := true

end Scenography
