import Scenography.Number.Bits
import Scenography.Number.Summed
import Scenography.Scene.Condition
/-!
Questions to a road map, and work that asks them. The answers may come straight from the map or
from a memo of earlier ones. Sums of words on the way may leave their type.
-/

namespace Scenography

structure LanePoint (K : Type) where
  lon : K
  lat : K
  alt : K
  road : UInt64
  lane : Int64
  shift : K
  offset : K
  yaw : K

namespace RoadMap

/-- What a map can be asked. Two queries are one only if their numbers agree bit for bit. -/
inductive Query
  /-- The point at `s` along a road and `t` across it. -/
  | onRoad (road : UInt64) (s t : Number.Bits)
  /-- The point at `s` along a road and `t` from the middle of a lane. -/
  | onLane (road : UInt64) (lane : Int64) (s t : Number.Bits)
  | nearest (lon lat : Number.Bits)
  | toGlobe (x y z : Number.Bits)
  | toPlane (lon lat : Number.Bits)
  | ahead (lon lat : Number.Bits) (lane : Int64) (distance : Number.Bits)
deriving DecidableEq

abbrev Query.Answer : Query → Type
  | onRoad .. => Option (LanePoint Float)
  | onLane .. => Option (LanePoint Float)
  | nearest .. => Option (LanePoint Float)
  | toGlobe .. => Option GeoPoint
  | toPlane .. => Option (Float × Float)
  | ahead .. => Option GeoPoint

end RoadMap

/-- A road map answers every question, by sums that may leave their type. -/
structure RoadMap where
  summed : (q : RoadMap.Query) → Summed q.Answer

namespace RoadMap

def answer (map : RoadMap) (q : Query) : q.Answer :=
  (map.summed q).value

instance : CoeFun RoadMap fun _ => (q : Query) → q.Answer :=
  ⟨answer⟩

def blank : RoadMap where
  summed
    | .onRoad .. => return none
    | .onLane .. => return none
    | .nearest .. => return none
    | .toGlobe .. => return none
    | .toPlane .. => return none
    | .ahead .. => return none

end RoadMap

inductive Inquiry (α : Type)
  | done (a : α)
  | ask (q : RoadMap.Query) (next : q.Answer → Inquiry α)
  /-- A sum of words has left its type: the end of the work where sums are checked. -/
  | overflow (next : Inquiry α)

namespace Inquiry

variable {α β : Type}

def bind : Inquiry α → (α → Inquiry β) → Inquiry β
  | done a, f => f a
  | ask q next, f => ask q fun answer => (next answer).bind f
  | overflow next, f => overflow (next.bind f)

instance : Monad Inquiry where
  pure := done
  bind := bind

theorem bind_done (p : Inquiry α) : p.bind done = p := by
  induction p with
  | done a => rfl
  | ask q next ih => simp only [bind, ih]
  | overflow next ih => simp only [bind, ih]

theorem bind_bind {γ : Type} (p : Inquiry α) (f : α → Inquiry β) (g : β → Inquiry γ) :
    (p.bind f).bind g = p.bind fun a => (f a).bind g := by
  induction p with
  | done a => rfl
  | ask q next ih => simp only [bind, ih]
  | overflow next ih => simp only [bind, ih]

instance : LawfulMonad Inquiry :=
  LawfulMonad.mk' Inquiry bind_done (fun _ _ => rfl) bind_bind

def query (q : RoadMap.Query) : Inquiry q.Answer :=
  ask q done

def ofSummed (x : Summed α) : Inquiry α :=
  if x.overflowed then overflow (done x.value) else done x.value

def run (map : RoadMap) : Inquiry α → α
  | done a => a
  | ask q next => (next (map q)).run map
  | overflow next => next.run map

def run? (map : RoadMap) : Inquiry α → Option α
  | done a => some a
  | ask q next => (map.summed q).value?.bind fun answer => (next answer).run? map
  | overflow _ => none

def asked (map : RoadMap) : Inquiry α → List RoadMap.Query
  | done _ => []
  | ask q next => q :: (next (map q)).asked map
  | overflow next => next.asked map

theorem run_bind (map : RoadMap) (p : Inquiry α) (f : α → Inquiry β) :
    (p.bind f).run map = (f (p.run map)).run map := by
  induction p with
  | done a => rfl
  | ask q next ih => exact ih (map q)
  | overflow next ih => exact ih

end Inquiry

namespace RoadMap

/-- Answers given so far, those of one type together, and how often one of them served again. -/
structure Memo where
  lanePoints : List (Query × Option (LanePoint Float)) := []
  geoPoints : List (Query × Option GeoPoint) := []
  planePoints : List (Query × Option (Float × Float)) := []
  hits : Nat := 0

namespace Memo

def find? (m : Memo) : (q : Query) → Option q.Answer
  | .onRoad road s t => m.lanePoints.lookup (.onRoad road s t)
  | .onLane road lane s t => m.lanePoints.lookup (.onLane road lane s t)
  | .nearest lon lat => m.lanePoints.lookup (.nearest lon lat)
  | .toGlobe x y z => m.geoPoints.lookup (.toGlobe x y z)
  | .toPlane lon lat => m.planePoints.lookup (.toPlane lon lat)
  | .ahead lon lat lane distance => m.geoPoints.lookup (.ahead lon lat lane distance)

def keep (m : Memo) : (q : Query) → q.Answer → Memo
  | .onRoad road s t, a => { m with lanePoints := (.onRoad road s t, a) :: m.lanePoints }
  | .onLane road lane s t, a => { m with lanePoints := (.onLane road lane s t, a) :: m.lanePoints }
  | .nearest lon lat, a => { m with lanePoints := (.nearest lon lat, a) :: m.lanePoints }
  | .toGlobe x y z, a => { m with geoPoints := (.toGlobe x y z, a) :: m.geoPoints }
  | .toPlane lon lat, a => { m with planePoints := (.toPlane lon lat, a) :: m.planePoints }
  | .ahead lon lat lane distance, a => { m with geoPoints := (.ahead lon lat lane distance, a) :: m.geoPoints }

def ask (map : RoadMap) (q : Query) (m : Memo) : q.Answer × Memo :=
  match m.find? q with
  | some answer => (answer, { m with hits := m.hits + 1 })
  | none => (map q, m.keep q (map q))

end Memo

end RoadMap

def Inquiry.runWith {α : Type} (map : RoadMap) : Inquiry α → RoadMap.Memo → α × RoadMap.Memo
  | done a, m => (a, m)
  | ask q next, m =>
    let (answer, m) := m.ask map q
    (next answer).runWith map m
  | overflow next, m => next.runWith map m

end Scenography
