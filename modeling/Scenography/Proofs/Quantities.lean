import Scenography.Scene.Basic

namespace Scenography

inductive Quantity
  | double (x : Float)
  | count (n : Nat)
deriving DecidableEq

class Measured (α : Type) where
  quantities : α → List Quantity

open Measured

instance : Measured Float where
  quantities x := [.double x]

instance : Measured Nat where
  quantities n := [.count n]

instance : Measured Int64 where
  quantities _ := []

instance : Measured String where
  quantities _ := []

instance {α : Type} [Measured α] : Measured (Option α) where
  quantities o := o.toList.flatMap quantities

instance {α : Type} [Measured α] : Measured (List α) where
  quantities l := l.flatMap quantities

instance {α β : Type} [Measured α] [Measured β] : Measured (α × β) where
  quantities p := quantities p.1 ++ quantities p.2

instance {κ α : Type} [Key κ] [Measured κ] [Measured α] : Measured (KeyMap κ α) where
  quantities m := quantities m.entries

instance : Measured Box where
  quantities b := quantities [b.length, b.width, b.height]

instance : Measured Performance where
  quantities p := quantities [p.maxSpeed, p.maxAcceleration, p.maxDeceleration]

instance : Measured Pose where
  quantities p := quantities [p.lon, p.lat, p.alt, p.heading, p.shift, p.offset, p.angle]

instance : Measured Profile where
  quantities
    | .ego p => quantities p.performance
    | .vehicle p => quantities (p.performance, p.angle)
    | .pedestrian p => quantities ([p.startTime, p.endTime], p.angle)
    | .obstacle => []

instance : Measured Entity where
  quantities e := quantities (e.id, e.box, e.pose, e.route, [e.startSpeed, e.maxSpeed], e.events, e.profile)

instance : Measured GeoPoint where
  quantities p := quantities [p.lon, p.lat, p.alt]

instance : Measured Goal where
  quantities
    | .world point tolerance => quantities (point, tolerance)
    | .lane _ _ s offset tolerance => quantities [s, offset, tolerance]

instance : Measured Test where
  quantities
    | .point _ point _ radius => quantities (point, radius)
    | .reach _ goal => quantities goal
    | _ => []

instance : Measured Condition where
  quantities c := quantities (c.delay, c.count, c.test)

instance : Measured Ending where
  quantities
    | .none => []
    | .time seconds => quantities seconds
    | .speed target => quantities target

instance : Measured Effect where
  quantities
    | .reroute route _ => quantities route
    | _ => []

instance : Measured Action where
  quantities a := quantities (a.id, a.effect, a.ending)

instance : Measured Event where
  quantities e := quantities (e.id, e.conditions, e.actions)

instance : Measured Waypoint where
  quantities w := quantities ([w.lon, w.lat, w.alt, w.heading], [w.shift, w.offset])

instance : Measured Route where
  quantities r := quantities (r.id, r.path)

instance : Measured Lights where
  quantities l := quantities [l.red, l.green, l.yellow]

instance : Measured SignalPlan where
  quantities p := quantities (p.id, p.lights, p.route)

instance : Measured Ramp where
  quantities r := quantities [r.acceleration, r.stopValue]

instance : Measured Merge where
  quantities m := quantities [m.duration, m.offset]

instance : Measured Speed where
  quantities s := quantities s.speed

instance : Measured Walk where
  quantities w := quantities [w.speed, w.direction]

instance {π : Type} [Measured π] : Measured (Node π) where
  quantities n := quantities (n.cue.value, n.count, n.payload)

instance {π : Type} [Measured π] : Measured (Timeline π) where
  quantities t := quantities t.nodes

instance : Measured Timelines where
  quantities t := quantities (t.ramps, t.merges, t.speeds, t.walks)

instance : Measured Weather where
  quantities w := quantities [w.visibility, w.intensity, w.windSpeed, w.temperature]

instance : Measured Scene where
  quantities s := quantities ([s.egos, s.vehicles, s.pedestrians, s.obstacles], s.routes, s.signals, s.timelines,
    s.events, [s.egoEvents, s.plannerEvents], s.weather)

instance : Measured Staged where
  quantities s := quantities s.scene

end Scenography
