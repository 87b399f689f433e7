import Scenography.KeyMap
import Scenography.Journal
import Scenography.Scene.Action
import Scenography.Scene.Entity
import Scenography.Scene.Parameter
import Scenography.Scene.Signal
import Scenography.Scene.Timeline

namespace Scenography

instance : Key Int64 where
  decideLt := fun _ _ => inferInstance
  trans := Int64.lt_trans
  irrefl := fun _ => Int64.lt_irrefl
  total := fun h k => Int64.le_antisymm (Int64.not_lt.1 k) (Int64.not_lt.1 h)

structure Weather where
  timestamp : Int64
  dateTime : String
  visibility : Float
  precipitation : String
  intensity : Float
  clouds : String
  windSpeed : Float
  temperature : Float

structure Timelines where
  ramps : KeyMap String (Timeline Ramp) := ∅
  merges : KeyMap String (Timeline Merge) := ∅
  speeds : KeyMap String (Timeline Speed) := ∅
  walks : KeyMap String (Timeline Walk) := ∅
deriving Inhabited

abbrev Events := KeyMap Nat Event

structure Scene where
  dialect : Dialect
  description : String
  mapFile : Option String
  parameters : List Parameter
  egos : KeyMap Nat Entity
  vehicles : KeyMap Nat Entity
  pedestrians : KeyMap Nat Entity
  obstacles : KeyMap Nat Entity
  routes : KeyMap Nat Route
  signals : KeyMap Nat SignalPlan
  timelines : Timelines
  events : Events
  egoEvents : KeyMap Nat Events
  /-- What the planner sees of the egos' events. -/
  plannerEvents : KeyMap Nat Events
  weather : KeyMap Int64 Weather

namespace Scene

def entities (s : Scene) : List Entity :=
  s.egos.values ++ s.vehicles.values ++ s.pedestrians.values ++ s.obstacles.values

def entity? (s : Scene) (name : String) : Option Entity :=
  s.entities.find? (·.name = name)

def allEgoEvents (s : Scene) : List Event :=
  s.egoEvents.values.flatMap (·.values)

def eventCount (s : Scene) : Nat :=
  s.events.size + s.allEgoEvents.length

end Scene

structure Staged where
  scene : Scene
  journal : Journal

end Scenography
