import Scenography.KeyMap
import Scenography.Scene.Entity

namespace Scenography

structure Counters where
  egos : Nat := 0
  vehicles : Nat := 0
  pedestrians : Nat := 0
  obstacles : Nat := 0
  routes : Nat := 0
  signals : Nat := 0
  ramps : Nat := 0
  merges : Nat := 0
  events : Nat := 0
  egoEvents : KeyMap Nat Nat := ∅
deriving Inhabited

namespace Counters

def nextEntity (c : Counters) : EntityKind → Nat × Counters
  | .ego => (c.egos + 1, { c with egos := c.egos + 1 })
  | .vehicle => (c.vehicles + 1, { c with vehicles := c.vehicles + 1 })
  | .pedestrian => (c.pedestrians + 1, { c with pedestrians := c.pedestrians + 1 })
  | .obstacle => (c.obstacles + 1, { c with obstacles := c.obstacles + 1 })

def nextRoute (c : Counters) : Nat × Counters :=
  (c.routes, { c with routes := c.routes + 1 })

def nextSignal (c : Counters) : Nat × Counters :=
  (c.signals + 1, { c with signals := c.signals + 1 })

/-- The timeline of all that have none of their own. -/
def sharedTimeline : String := "1"

def nextRamp (c : Counters) : String × Counters :=
  (toString (c.ramps + 2), { c with ramps := c.ramps + 1 })

def nextMerge (c : Counters) : String × Counters :=
  (toString (c.merges + 2), { c with merges := c.merges + 1 })

def nextEvent (c : Counters) : Nat × Counters :=
  (c.events, { c with events := c.events + 1 })

def nextEgoEvent (c : Counters) (ego : Nat) : Nat × Counters :=
  let n := (c.egoEvents.get? ego).getD 0
  (n, { c with egoEvents := c.egoEvents.insert ego (n + 1) })

end Counters

end Scenography
