import Scenography.Number.Binary64
import Scenography.RoadMap.Inquiry
/-!
A flat road map: straight parallel roads with lanes of one width on either side.
-/

namespace Scenography

class Measure (K : Type) extends Add K, Sub K, Mul K, Div K, Neg K where
  ofNat : Nat → K
  lt : K → K → Bool
  le : K → K → Bool
  abs : K → K
  floor : K → Int
  nearest : K → Int
  halfTurn : K

namespace Measure

def pi : Float := 3.141592653589793

instance : Measure Float where
  ofNat := Float.ofNat
  lt x y := x < y
  le x y := x ≤ y
  abs := Float.abs
  floor := Number.toInt Binary64.floor
  nearest := Number.toInt Binary64.nearest
  halfTurn := pi

end Measure

/-- Road `n` runs along `x`, `n - 1` spacings north of the origin. Negative lanes lie south of it and
lead towards `+x`. -/
structure Plane (K : Type) where
  originLon : K
  originLat : K
  laneWidth : K
  roadSpacing : K
  roadLength : K
  lonScale : K

namespace Plane

open Scenography.Measure (ofNat lt le abs)

section

variable {K : Type} [Measure K]

def latScale : K := ofNat 111320

def roadY (m : Plane K) (road : UInt64) : K :=
  ofNat (road.toNat - 1) * m.roadSpacing

def laneMiddle (m : Plane K) (lane : Int64) : K :=
  let magnitude := (ofNat lane.toInt.natAbs - ofNat 1 / ofNat 2) * m.laneWidth
  if lane < 0 then -magnitude else magnitude

def laneIndex (m : Plane K) (t : K) : Int64 :=
  Int64.ofIntClamp (Measure.floor (abs t / m.laneWidth))

def laneAt (m : Plane K) (t : K) : Summed Int64 := do
  let lane ← .int64 (m.laneIndex t) 1
  return if lt t (ofNat 0) then -lane else lane

def isOnRoad (m : Plane K) (road : UInt64) (s t : K) : Bool :=
  decide (0 < road) && (le (ofNat 0) s && le s m.roadLength) && lt (abs t) (m.roadSpacing / ofNat 2)

def toGlobe (m : Plane K) (x y : K) : K × K :=
  (m.originLon + x / m.lonScale, m.originLat + y / latScale)

def toPlane (m : Plane K) (lon lat : K) : K × K :=
  ((lon - m.originLon) * m.lonScale, (lat - m.originLat) * latScale)

def lanePoint (m : Plane K) (road : UInt64) (s t : K) (lane : Int64) : LanePoint K :=
  let (lon, lat) := m.toGlobe s (m.roadY road + t)
  { lon, lat, alt := ofNat 0, road, lane, shift := s, offset := t - m.laneMiddle lane
    yaw := if lane < 0 then ofNat 0 else Measure.halfTurn }

def point (m : Plane K) (road : UInt64) (s t : K) : Summed (LanePoint K) :=
  m.lanePoint road s t <$> m.laneAt t

def onRoad? (m : Plane K) (road : UInt64) (s t : K) : Summed (Option (LanePoint K)) :=
  if m.isOnRoad road s t then some <$> m.point road s t else return none

def onLane? (m : Plane K) (road : UInt64) (lane : Int64) (s t : K) : Summed (Option (LanePoint K)) :=
  if lane = 0 then return none else m.onRoad? road s (m.laneMiddle lane + t)

/-- Roads between the origin and `y`, to the nearest one; south of the first there is none. -/
def roadIndex? (m : Plane K) (y : K) : Option UInt64 :=
  let index := Measure.nearest (y / m.roadSpacing)
  if index < 0 then none else some (UInt64.ofNatClamp index.toNat)

def nearest? (m : Plane K) (lon lat : K) : Summed (Option (LanePoint K)) :=
  let (x, y) := m.toPlane lon lat
  match m.roadIndex? y with
  | none => return none
  | some index => do
    let road ← .uint64 index 1
    m.onRoad? road x (y - m.roadY road)

/-- Further on by `distance` along the given lane, or with lane 0 along the lane that is there. -/
def ahead? (m : Plane K) (lon lat : K) (lane : Int64) (distance : K) : Summed (Option (LanePoint K)) := do
  match ← m.nearest? lon lat with
  | none => return none
  | some start =>
    let lane := if lane = 0 then start.lane else lane
    let s := if lane < 0 then start.shift + distance else start.shift - distance
    m.onLane? start.road lane s start.offset

end

def ofOrigin (originLon originLat laneWidth roadSpacing roadLength : Float) : Plane Float where
  originLon
  originLat
  laneWidth
  roadSpacing
  roadLength
  lonScale := latScale * Float.cos (originLat * (Measure.pi / 180.0))

def standard : Plane Float :=
  ofOrigin 113.0 28.0 3.5 100.0 10000.0

def roadMap (m : Plane Float) : RoadMap where
  summed
    | .onRoad road s t => m.onRoad? road s.toFloat t.toFloat
    | .onLane road lane s t => m.onLane? road lane s.toFloat t.toFloat
    | .nearest lon lat => m.nearest? lon.toFloat lat.toFloat
    | .toGlobe x y z =>
      let (lon, lat) := m.toGlobe x.toFloat y.toFloat
      return some ⟨lon, lat, z.toFloat⟩
    | .toPlane lon lat => return some (m.toPlane lon.toFloat lat.toFloat)
    | .ahead lon lat lane distance => do
      return (← m.ahead? lon.toFloat lat.toFloat lane distance.toFloat).map fun p => ⟨p.lon, p.lat, p.alt⟩

end Plane

end Scenography
