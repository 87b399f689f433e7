import Scenography.Staging.Position
import Scenography.Text.Lower

namespace Scenography.Staging

open Markup (Element)

/-- The kinds of conditions, in the order they are looked for. -/
inductive Branch
  | time | parameter | elementState | timeToCollision | relativeDistance | distance | reach | speed
  | relativeSpeed | headway
deriving DecidableEq

namespace Branch

def all : List Branch :=
  [time, parameter, elementState, timeToCollision, relativeDistance, distance, reach, speed,
    relativeSpeed, headway]

def isByValue : Branch → Bool
  | time => true
  | parameter => true
  | elementState => true
  | _ => false

def elementName : Branch → String
  | time => "SimulationTimeCondition"
  | parameter => "ParameterCondition"
  | elementState => "StoryboardElementStateCondition"
  | timeToCollision => "TimeToCollisionCondition"
  | relativeDistance => "RelativeDistanceCondition"
  | distance => "DistanceCondition"
  | reach => "ReachPositionCondition"
  | speed => "SpeedCondition"
  | relativeSpeed => "RelativeSpeedCondition"
  | headway => "TimeHeadwayCondition"

def find? (byValue byEntity : Option Element) : Option (Branch × Element) :=
  all.findSome? fun b =>
    ((if b.isByValue then byValue else byEntity).bind (·.child? b.elementName)).map (b, ·)

def ofCondition? (condition : Element) : Option (Branch × Element) :=
  find? (condition.child? "ByValueCondition") (condition.descend? ["ByEntityCondition", "EntityCondition"])

end Branch

def comparison? : String → Option Comparison
  | "equalTo" => some .eq
  | "lessThan" => some .lt
  | "greaterThan" => some .gt
  | "lessOrEqual" => some .le
  | "greaterOrEqual" => some .ge
  | _ => none

def comparison (e : Element) : Staging Comparison := do
  let raw ← attr e "rule"
  match comparison? raw with
  | some c => return c
  | none =>
    warn "UNKNOWN_RULE" ("rule \"" ++ raw ++ "\" on " ++ e.describe ++ " treated as equalTo")
    return .eq

def entityTag (name : String) : Staging String := do
  match (← getCast).tag? name with
  | some tag => return tag
  | none =>
    warn "UNKNOWN_ENTITY" ("condition refers to unknown entity \"" ++ name ++ "\"")
    return name

def entityName? (e : Option Element) : Staging (Option String) :=
  e.mapM (attr · "entityRef")

def timeTest (e : Element) : Staging Test := do
  return .time (← comparison e) (← number e "value")

def laneAttachTest (name : String) (e : Element) : Attempt Test := do
  match Text.split ';' (← attr e "value") with
  | [road, laneSection, lane] => return .laneAttach (← attr e "parameterRef") (← comparison e) road laneSection lane
  | _ => throw (.unsupportedTrigger name)

def elementStateTest (e : Element) : Staging Test := do
  return .elementState (← attr e "storyboardElementType") (← attr e "storyboardElementRef") (← attr e "state")

def distanceMode (e : Element) (name straight : String) : Staging DistanceMode := do
  return if (← attr? e name) = some straight then .straight else .alongLane

def timeToCollisionTest (name source : String) (e : Element) : Attempt Test := do
  match ← entityName? (e.descend? ["TimeToCollisionConditionTarget", "EntityRef"]) with
  | none => throw (.unsupportedTrigger name)
  | some target =>
    let mode ← distanceMode e "alongRoute" "false"
    return .timeToCollision (← entityTag source) (← entityTag target) (← comparison e) (← number e "value") mode

def relativeDistanceTest (source : String) (e : Element) : Staging Test := do
  let target ← attr e "entityRef"
  let mode ← distanceMode e "relativeDistanceType" "cartesianDistance"
  return .distance (← entityTag source) (← entityTag target) (← comparison e) (← number e "value") mode

def pointAhead (name : String) (spot : Spot) (distance : Float) : Staging GeoPoint := do
  match ← ask (.ahead spot.lon spot.lat ((spot.lane.map (·.lane)).getD 0) distance) with
  | some p => return { p with alt := spot.alt }
  | none =>
    warn "POSITION_UNRESOLVED" ("cannot project condition \"" ++ name ++ "\" along its lane")
    return ⟨spot.lon, spot.lat, spot.alt⟩

def distanceTest (name source : String) (e : Element) : Attempt Test := do
  let distance ← number e "value"
  let spot? ← match e.child? "Position" with
    | some position => liftM (spot? position)
    | none => pure none
  match spot? with
  | none => throw (.unsupportedTrigger name)
  | some spot =>
    let point ← pointAhead name spot distance.value
    return .point (← entityTag source) point distance (← read).settings.pointRadius

def worldGoal (e : Element) (tolerance : Float) : Staging Goal := do
  return .world ⟨← value e "x", ← value e "y", ← value e "z"⟩ tolerance

def laneGoal (e : Element) (tolerance : Float) : Staging Goal := do
  return .lane (← attr e "roadId") (← attr e "laneId") (← value e "s") (← value e "offset") tolerance

/-- Only positions in the world and on a lane can be reached. -/
def goal? (e : Element) (tolerance : Float) : Staging (Option Goal) :=
  match e.descend? ["Position", "WorldPosition"], e.descend? ["Position", "LanePosition"] with
  | some world, _ => some <$> worldGoal world tolerance
  | none, some lane => some <$> laneGoal lane tolerance
  | none, none => return none

def reachTest (name source : String) (e : Element) : Attempt Test := do
  match ← goal? e (← value e "tolerance") with
  | none => throw (.unsupportedTrigger name)
  | some goal => return .reach (← entityTag source) goal

def speedUnit : String := "m_s"

def speedTest (actor : String) (target : Option String) (frame : SpeedFrame) (e : Element) : Staging Test := do
  return .speed (Text.lowerFirst actor) target frame (← comparison e) (← number e "value") speedUnit

def headwayTest (source : String) (e : Element) : Staging Test := do
  let target ← attr e "entityRef"
  return .headway (← entityTag source) (← entityTag target) (← comparison e) (← number e "value")

/-- What a condition of the given name looks at. The actor triggers it unless another entity is
named. -/
def test (actor name : String) (source? : Option String) (e : Element) : Branch → Attempt Test
  | .time => timeTest e
  | .parameter => laneAttachTest name e
  | .elementState => elementStateTest e
  | .timeToCollision => timeToCollisionTest name (source?.getD actor) e
  | .relativeDistance => relativeDistanceTest (source?.getD actor) e
  | .distance => distanceTest name (source?.getD actor) e
  | .reach => reachTest name (source?.getD actor) e
  | .speed => speedTest actor source? .absolute e
  | .relativeSpeed => speedTest actor source? .relative e
  | .headway => headwayTest (source?.getD actor) e

def condition (actor : String) (e : Element) : Attempt Condition := do
  let name ← attr e "name"
  match Branch.ofCondition? e with
  | none => throw (.unsupportedTrigger name)
  | some (branch, node) =>
    let source? ← entityName? (e.descend? ["ByEntityCondition", "TriggeringEntities", "EntityRef"])
    let test ← test actor name source? node branch
    let delay ← value e "delay"
    let edge := Edge.ofText (← attr? e "conditionEdge")
    return { name, delay, edge, count := 1, test }

/-- The conditions of all groups of a trigger. One that fails fails the trigger. -/
def trigger (actor : String) (e : Element) : Attempt (List Condition) :=
  ((e.childrenNamed "ConditionGroup").flatMap (·.childrenNamed "Condition")).mapM (condition actor)

end Scenography.Staging
