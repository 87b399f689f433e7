import Scenography.Staging.Route

namespace Scenography

structure Request where
  action : Action
  feed : Option Feed := none
  plan : Option RoutePlan := none

/-- Autonomous traffic keeps its effects and feeds no timelines. -/
def Request.gated (behavior : Behavior) (r : Request) : Request :=
  if behavior.feedsTimelines then r else { r with feed := none }

namespace Staging

open Markup (Element)

def noSpeedLimit : Float := -1.0

def rampTo (name : String) (rate target : Authored) : Request :=
  if target.value == noSpeedLimit then
    { action := { name, effect := .ramp rate }, feed := some (.ramp rate.value .none 0.0) }
  else
    { action := { name, effect := .ramp rate, ending := .speed target.value }
      feed := some (.ramp rate.value .speed target.value) }

def stepTo (name : String) (target : Authored) : Request where
  action := { name, effect := .step target }
  feed := some (.speed target.value)

def absoluteSpeed (name shape : String) (rate : Authored) (e : Element) : Staging (Option Request) := do
  let target ← number e "value"
  match shape with
  | "linear" => return some (rampTo name rate target)
  | "sinusoidal" => return some (rampTo name rate target)
  | "step" => return some (stepTo name target)
  | other =>
    refuse "UNSUPPORTED_ACTION" ("speed action \"" ++ name ++ "\" has unsupported shape \"" ++ other ++ "\"")

/-- A relative speed is reached after the time its rate takes. -/
def relativeSpeed (name shape : String) (rate : Authored) (e : Element) : Staging (Option Request) := do
  if shape ≠ "linear" then
    refuse "UNSUPPORTED_ACTION"
      ("relative speed action \"" ++ name ++ "\" has unsupported shape \"" ++ shape ++ "\"")
  else
    let delta ← value e "value"
    if rate.value == 0.0 then
      refuse "UNSUPPORTED_ACTION" ("relative speed action \"" ++ name ++ "\" has a zero ramp rate")
    else
      let seconds := delta / rate.value
      return some {
        action := { name, effect := .ramp rate, ending := .time seconds }
        feed := some (.ramp rate.value .time seconds) }

def speedAction (name : String) (e : Element) : Staging (Option Request) := do
  let dynamics := e.child? "SpeedActionDynamics"
  let shape := (← dynamics.mapM (attr · "dynamicsShape")).getD ""
  let rate := (← dynamics.mapM (number · "value")).getD .zero
  match e.descend? ["SpeedActionTarget", "AbsoluteTargetSpeed"],
      e.descend? ["SpeedActionTarget", "RelativeTargetSpeed"] with
  | some target, _ => absoluteSpeed name shape rate target
  | none, some target => relativeSpeed name shape rate target
  | none, none => refuse "UNSUPPORTED_ACTION" ("speed action \"" ++ name ++ "\" has no target")

def targetLane? (e : Element) : Option Element :=
  (e.child? "LaneChangeTarget").bind fun t => (t.child? "RelativeTargetLane").or (t.child? "AbsoluteTargetLane")

/-- The offset written to the scene. Where positive offsets lie to the right, one within the lane to
the left is authored with a minus, which goes. -/
def shownOffset (dialect : Dialect) (direction : LaneDirection) : Option String → Authored
  | none => .zero
  | some authored =>
    if direction = .leftInLane && dialect.countsRightward then ⟨Text.dropLead '-' (Text.trim authored)⟩
    else ⟨authored⟩

def laneChange (name : String) (e : Element) : Staging Request := do
  let target := (← (targetLane? e).mapM (number · "value")).getD .zero
  let duration := (← (e.child? "LaneChangeActionDynamics").mapM (number · "value")).getD .zero
  let authored := (← attr? e "targetLaneOffset").filter (!Text.allBlank ·)
  let offset : Authored := ⟨authored.getD ""⟩
  let dialect := (← get).dialect
  let direction := LaneDirection.of dialect target.value offset.value
  return {
    action := { name, effect := .laneChange direction target duration (shownOffset dialect direction authored) }
    feed := some (.merge (Number.toInt64 target.value) (authored.map fun _ => offset.value) duration.value) }

def number? (e : Element) (name : String) : Staging (Option Authored) :=
  return (← attr? e name).map Authored.mk

def motionLimits (e : Element) : Staging MotionLimits := do
  return ⟨← number? e "maxAcceleration", ← number? e "maxDeceleration", ← number? e "maxSpeed"⟩

def keepDistance (name : String) (e : Element) : Staging Request := do
  let limits ← (e.child? "DynamicConstraints").mapM motionLimits
  let target ← attr e "entityRef"
  let distance ← number e "distance"
  let continuous ← isTrue e "continuous"
  return { action := { name, effect := .keepDistance target distance continuous limits } }

def activation (name : String) (e : Element) : Staging (Option Request) := do
  let lateral ← attr? e "lateral"
  let longitudinal ← attr? e "longitudinal"
  if lateral.isNone && longitudinal.isNone then
    refuse "UNSUPPORTED_ACTION" ("controller activation \"" ++ name ++ "\" names no axis")
  else
    let mode := ControllerMode.ofAxes (lateral = some "true") (longitudinal = some "true")
    return some { action := { name, effect := .activate mode } }

def setSwitch (s : AssistSwitches) (name value : String) : AssistSwitches :=
  match name with
  | "resume_sw" => { s with resume := some value }
  | "cancel_sw" => { s with cancel := some value }
  | "speed_inc_sw" => { s with faster := some value }
  | "speed_dec_sw" => { s with slower := some value }
  | "set_timegap" => { s with timeGap := some value }
  | "set_speed" => { s with setSpeed := some value }
  | _ => s

def switches (e : Element) : Staging AssistSwitches :=
  e.properties.foldlM (fun s p => return setSwitch s p.1 (← resolve p.2)) {}

def actuator (overrides : Element) (name valueName : String) : Staging String := do
  match overrides.child? name with
  | none => return "false;0"
  | some e =>
    let active ← attrOr e "active" "false"
    let value ← attrOr e valueName "0"
    return active ++ ";" ++ value

def overriding (name : String) (e : Element) : Staging Request := do
  return { action := { name, effect := .override {
    throttle := ← actuator e "Throttle" "value"
    brake := ← actuator e "Brake" "value"
    clutch := ← actuator e "Clutch" "value"
    parkingBrake := ← actuator e "ParkingBrake" "value"
    steeringWheel := ← actuator e "SteeringWheel" "value"
    gear := ← actuator e "Gear" "number" } } }

/-- A controller is assigned if it has a name that is not `none`; else actuators are overridden. -/
def controllerAction (name : String) (e : Element) : Staging (Option Request) := do
  let assigned := e.descend? ["AssignControllerAction", "Controller"]
  let controller := (← assigned.mapM (attr · "name")).getD ""
  match assigned.filter fun _ => controller ≠ "" && controller ≠ "none" with
  | some node => return some { action := { name, effect := .assign controller (← switches node) } }
  | none =>
    match e.child? "OverrideControllerValueAction" with
    | some overrides => return some (← overriding name overrides)
    | none =>
      refuse "UNSUPPORTED_ACTION" ("controller action \"" ++ name ++ "\" neither assigns nor overrides")

def routing (owner name : String) (e : Element) : Staging (Option Request) := do
  return (← routePlan owner e).map fun plan =>
    { action := { name, effect := .reroute none plan.kind }, plan := some plan }

def customCommand (name : String) (e : Element) : Attempt Request := do
  let type ← attr e "type"
  match Channel.ofText? type with
  | none => throw (.unknownCommand type)
  | some channel =>
    let text ← resolve (Text.trim e.text)
    match Command.read channel text with
    | .error f => throw f
    | .ok c => return { action := { name, effect := .command channel c.kind c.value c.offset } }

def privateAction (owner name : String) (e : Element) : Staging (Option Request) := do
  match e.descend? ["LongitudinalAction", "SpeedAction"], e.descend? ["LateralAction", "LaneChangeAction"],
      e.descend? ["LateralAction", "LateralDistanceAction"], e.child? "ActivateControllerAction",
      e.child? "ControllerAction", e.child? "RoutingAction" with
  | some a, _, _, _, _, _ => speedAction name a
  | none, some a, _, _, _, _ => some <$> laneChange name a
  | none, none, some a, _, _, _ => some <$> keepDistance name a
  | none, none, none, some a, _, _ => activation name a
  | none, none, none, none, some a, _ => controllerAction name a
  | none, none, none, none, none, some a => routing owner name a
  | none, none, none, none, none, none =>
    refuse "UNSUPPORTED_ACTION" ("action \"" ++ name ++ "\" of " ++ owner ++ " is not supported")

/-- What an `Action` of the owner asks for. An action without an effect is warned of; an unknown
command fails. -/
def request? (owner : String) (behavior : Behavior) (e : Element) : Attempt (Option Request) := do
  let name ← attr e "name"
  match e.descend? ["UserDefinedAction", "CustomCommandAction"], e.child? "PrivateAction" with
  | some command, _ => return some (← customCommand name command)
  | none, some action => return (← privateAction owner name action).map (Request.gated behavior)
  | none, none =>
    refuse "UNSUPPORTED_ACTION" ("action \"" ++ name ++ "\" has no private or user-defined branch")

end Staging

end Scenography
