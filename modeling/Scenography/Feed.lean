import Scenography.Counters
import Scenography.Scene.Basic

namespace Scenography

inductive Feed
  | ramp (rate : Float) (stopKind : StopKind) (stopValue : Float)
  | merge (target : Int64) (offset : Option Float) (duration : Float)
  | speed (target : Float)

namespace Cue

def ofTest? : Test → Option Cue
  | .time _ value => some ⟨value.value, .time, .none⟩
  | .timeToCollision _ _ _ value mode => some ⟨value.value, .collision, mode⟩
  | .distance _ _ _ value mode => some ⟨value.value, .distance, mode⟩
  | .point _ _ distance _ => some ⟨distance.value, .point, .none⟩
  | _ => none

def ofConditions? (conditions : List Condition) : Option Cue :=
  conditions.reverse.findSome? (ofTest? ·.test)

end Cue

namespace Feed

def standardStop : Float := 3.0

def rampOf (rate : Float) (stopKind : StopKind) (stopValue : Float) : Ramp :=
  match stopKind with
  | .none => ⟨rate, .time, standardStop⟩
  | _ => ⟨rate, stopKind, stopValue⟩

/-- An offset gives the direction by its sign, else the target lane is the direction. -/
def mergeOf (target : Int64) (offset : Option Float) (duration : Float) : Merge :=
  match offset with
  | some offset => ⟨if offset < 0.0 then -1 else 1, duration, offset.abs⟩
  | none => ⟨target, duration, 0.0⟩

def idleSpeed : Float := 1e-3

def isIdle (cue : Cue) (target : Float) : Bool :=
  cue.value < idleSpeed && target < idleSpeed

end Feed

namespace Timelines

def start : Timelines where
  ramps := (∅ : KeyMap String (Timeline Ramp)).insert Counters.sharedTimeline (.empty Counters.sharedTimeline)
  merges := (∅ : KeyMap String (Timeline Merge)).insert Counters.sharedTimeline (.empty Counters.sharedTimeline)

def store? {π : Type} (m : KeyMap String (Timeline π)) (id : String) (cue : Cue) (payload : π) :
    Option (KeyMap String (Timeline π)) :=
  (((m.get? id).getD (.empty id)).add? { cue, payload }).map (m.insert id)

/-- The timeline an entity has for itself, if it does not share the common one. -/
def own? (id : Option String) : Option String :=
  id.filter (· ≠ Counters.sharedTimeline)

end Timelines

structure Feeding where
  timelines : Timelines
  counters : Counters
  entity : Entity

namespace Feeding

def claimRamps (f : Feeding) : String × Feeding :=
  match Timelines.own? f.entity.rampTimeline with
  | some id => (id, f)
  | none =>
    let (id, counters) := f.counters.nextRamp
    (id, { f with counters, entity := { f.entity with rampTimeline := some id } })

def claimMerges (f : Feeding) : String × Feeding :=
  match Timelines.own? f.entity.mergeTimeline with
  | some id => (id, f)
  | none =>
    let (id, counters) := f.counters.nextMerge
    (id, { f with counters, entity := { f.entity with mergeTimeline := some id } })

def addRamp (f : Feeding) (cue : Cue) (r : Ramp) : Bool × Feeding :=
  let (id, f) := f.claimRamps
  match Timelines.store? f.timelines.ramps id cue r with
  | some ramps => (true, { f with timelines := { f.timelines with ramps } })
  | none => (false, f)

def addMerge (f : Feeding) (cue : Cue) (m : Merge) : Bool × Feeding :=
  let (id, f) := f.claimMerges
  match Timelines.store? f.timelines.merges id cue m with
  | some merges => (true, { f with timelines := { f.timelines with merges } })
  | none => (false, f)

def addSpeed (f : Feeding) (cue : Cue) (s : Speed) : Bool × Feeding :=
  match Timelines.store? f.timelines.speeds (toString f.entity.id) cue s with
  | some speeds => (true, { f with timelines := { f.timelines with speeds } })
  | none => (false, f)

def addWalk (f : Feeding) (cue : Cue) (w : Walk) : Bool × Feeding :=
  match Timelines.store? f.timelines.walks (toString f.entity.id) cue w with
  | some walks => (true, { f with timelines := { f.timelines with walks } })
  | none => (false, f)

/-- Adds one node to a timeline of the entity, and says whether it did. A node that clashes is
dropped, and so are motions the entity has no timeline for. -/
def add (f : Feeding) (cue : Cue) (feed : Feed) : Bool × Feeding :=
  match f.entity.kind, feed with
  | .vehicle, .ramp rate stopKind stopValue => f.addRamp cue (Feed.rampOf rate stopKind stopValue)
  | .vehicle, .merge target offset duration => f.addMerge cue (Feed.mergeOf target offset duration)
  | .vehicle, .speed target => f.addSpeed cue ⟨target⟩
  | .pedestrian, .speed target =>
    if Feed.isIdle cue target then (false, f)
    else f.addWalk cue ⟨target, (f.entity.pose.map (·.angle)).getD 0.0⟩
  | _, _ => (false, f)

end Feeding

def Entity.withSharedTimelines (e : Entity) : Entity :=
  { e with
    rampTimeline := some (e.rampTimeline.getD Counters.sharedTimeline)
    mergeTimeline := some (e.mergeTimeline.getD Counters.sharedTimeline) }

end Scenography
