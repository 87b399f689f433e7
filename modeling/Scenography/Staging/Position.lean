import Scenography.Staging.Basic

namespace Scenography

structure Spot where
  lon : Float
  lat : Float
  alt : Float
  /-- In radians. -/
  heading : Float
  lane : Option (LanePoint Float)

namespace Degrees

def ofRadians (x : Float) : Float :=
  x * 57.29577951308232

def normalize (x : Float) : Float :=
  match Binary64.ofFloat? x with
  | none => Number.notANumber
  | some b =>
    let r := (b.remainder 360).toFloat
    let r := if r < 0.0 then r + 360.0 else r
    if 360.0 ≤ r then 0.0 else r

end Degrees

namespace Spot

/-- Without a heading of its own a point on a lane looks along it. -/
def ofLane (p : LanePoint Float) (heading : Option Float) : Spot :=
  ⟨p.lon, p.lat, p.alt, heading.getD p.yaw, some p⟩

def waypoint (s : Spot) : Waypoint where
  lon := s.lon
  lat := s.lat
  alt := s.alt
  heading := s.heading
  road := s.lane.map (·.road)
  lane := s.lane.map (·.lane)
  shift := s.lane.map (·.shift)
  offset := s.lane.map (·.offset)

def pose (s : Spot) (angle : Float) : Pose where
  lon := s.lon
  lat := s.lat
  alt := s.alt
  heading := s.heading
  road := s.lane.map (·.road)
  lane := (s.lane.map (·.lane)).getD 0
  shift := (s.lane.map (·.shift)).getD 0.0
  offset := (s.lane.map (·.offset)).getD 0.0
  angle := Degrees.normalize angle

def ofPose (p : Pose) : Spot where
  lon := p.lon
  lat := p.lat
  alt := p.alt
  heading := p.heading
  lane := p.road.map fun road =>
    { lon := p.lon, lat := p.lat, alt := p.alt, road, lane := p.lane, shift := p.shift, offset := p.offset
      yaw := p.heading }

end Spot

namespace Staging

open Markup (Element)

def anchor? (shape : Element) : Staging (Option Pose) := do
  let name ← attr shape "entityRef"
  match ((← getCast).find? name).bind (·.pose) with
  | some p => return some p
  | none => refuse "POSITION_UNRESOLVED" ("relative position refers to unplaced entity \"" ++ name ++ "\"")

def onMap (shape : Element) (found : Option Spot) : Staging (Option Spot) :=
  match found with
  | some s => return some s
  | none => refuse "POSITION_UNRESOLVED" (shape.describe ++ " is off the road network")

def worldSpot (shape : Element) : Staging (Option Spot) := do
  let x ← value shape "x"
  let y ← value shape "y"
  let z ← value shape "z"
  let heading ← value shape "h"
  let (lon, lat) ←
    if (← get).dialect.isGeographic then pure (x, y)
    else do
      match ← ask (.toGlobe x y z) with
      | some p => pure (p.lon, p.lat)
      | none => pure (x, y)
  let lane ← ask (.nearest lon lat)
  return some ⟨lon, lat, z, heading, lane⟩

def relativeWorldSpot (shape : Element) : Staging (Option Spot) := do
  match ← anchor? shape with
  | none => return none
  | some a =>
    match ← ask (.toPlane a.lon a.lat) with
    | none => return none
    | some (x, y) =>
      let alt := a.alt + (← value shape "dz")
      let dx ← value shape "dx"
      let dy ← value shape "dy"
      match ← ask (.toGlobe (x + dx) (y + dy) alt) with
      | none => return none
      | some p =>
        let lane ← ask (.nearest p.lon p.lat)
        return some ⟨p.lon, p.lat, alt, 0.0, lane⟩

def heading? (shape : Element) : Staging (Option Float) :=
  ((shape.child? "Orientation").filter fun o => (o.attr? "h").isSome).mapM (value · "h")

def laneSpot (shape : Element) : Staging (Option Spot) := do
  let road := Number.toUInt64 (← value shape "roadId")
  let lane := Number.toInt64 (← value shape "laneId")
  let s ← value shape "s"
  let offset ← value shape "offset"
  let heading ← heading? shape
  return (← ask (.onLane road lane s offset)).map (Spot.ofLane · heading)

def relativeLaneSpot (shape : Element) (a : Pose) : Staging (Option Spot) := do
  let lane ← summed (.int64 a.lane (Number.toInt64 (← value shape "dLane")))
  let s := a.shift + (← value shape "ds")
  let offset ←
    if (shape.attr? "offset").isSome then pure (a.offset + (← value shape "offset")) else pure 0.0
  return (← ask (.onLane (a.road.getD 0) lane s offset)).map (Spot.ofLane · none)

def roadSpot (shape : Element) : Staging (Option Spot) := do
  let road := Number.toUInt64 (← value shape "roadId")
  let s ← value shape "s"
  let t ← value shape "t"
  return (← ask (.onRoad road s t)).map (Spot.ofLane · none)

def relativeRoadSpot (shape : Element) (a : Pose) : Staging (Option Spot) := do
  let s := a.shift + (← value shape "ds")
  let t := a.offset + (← value shape "dt")
  return (← ask (.onLane (a.road.getD 0) a.lane s t)).map (Spot.ofLane · none)

def fromAnchor (shape : Element) (f : Pose → Staging (Option Spot)) : Staging (Option Spot) := do
  match ← anchor? shape with
  | none => return none
  | some a => onMap shape (← f a)

def shapeSpot (shape : Element) : Staging (Option Spot) := do
  match shape.name with
  | "WorldPosition" => onMap shape (← worldSpot shape)
  | "RelativeWorldPosition" => onMap shape (← relativeWorldSpot shape)
  | "LanePosition" => onMap shape (← laneSpot shape)
  | "RelativeLanePosition" => fromAnchor shape (relativeLaneSpot shape)
  | "RoadPosition" => onMap shape (← roadSpot shape)
  | "RelativeRoadPosition" => fromAnchor shape (relativeRoadSpot shape)
  | other => refuse "POSITION_UNRESOLVED" ("position kind \"" ++ other ++ "\" is not supported")

def spot? (position : Element) : Staging (Option Spot) :=
  match position.firstElement? with
  | none => refuse "POSITION_UNRESOLVED" (position.describe ++ " is empty")
  | some shape => shapeSpot shape

/-- In degrees: as authored for an entity on a trajectory, if its dialect lets it, else as it heads. -/
def startAngle (dialect : Dialect) (e : Entity) (heading : Float) : Float :=
  match e.profile.angle? with
  | some angle =>
    if e.behavior = .trajectory && !dialect.anglesFollowHeading then angle else Degrees.ofRadians heading
  | none => Degrees.ofRadians heading

def teleport (owner : String) (action : Element) : Staging Unit := do
  match action.child? "Position" with
  | none => warn "POSITION_UNRESOLVED" (action.describe ++ " has no Position")
  | some position =>
    match ← spot? position with
    | none => return
    | some spot =>
      match (← getCast).find? owner with
      | none => warn "UNKNOWN_ENTITY" ("teleport of unknown entity \"" ++ owner ++ "\"")
      | some e =>
        let pose := spot.pose (startAngle (← get).dialect e spot.heading)
        modifyEntity owner fun e => { e with pose := some pose }

end Staging

end Scenography
