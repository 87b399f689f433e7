import Scenography.KeyMap
import Scenography.Scene.Entity
import Scenography.Text.Lower

namespace Scenography

/-- Entities by kind and number, and whom each name in lower case stands for. -/
structure Cast where
  egos : KeyMap Nat Entity := ∅
  vehicles : KeyMap Nat Entity := ∅
  pedestrians : KeyMap Nat Entity := ∅
  obstacles : KeyMap Nat Entity := ∅
  names : KeyMap String (EntityKind × Nat) := ∅
deriving Inhabited

namespace Cast

def ofKind (c : Cast) : EntityKind → KeyMap Nat Entity
  | .ego => c.egos
  | .vehicle => c.vehicles
  | .pedestrian => c.pedestrians
  | .obstacle => c.obstacles

def mapKind (c : Cast) (kind : EntityKind) (f : KeyMap Nat Entity → KeyMap Nat Entity) : Cast :=
  match kind with
  | .ego => { c with egos := f c.egos }
  | .vehicle => { c with vehicles := f c.vehicles }
  | .pedestrian => { c with pedestrians := f c.pedestrians }
  | .obstacle => { c with obstacles := f c.obstacles }

def nameKey (name : String) : String :=
  Text.lower name

def isFree (c : Cast) (name : String) : Bool :=
  !c.names.contains (nameKey name)

/-- Takes an entity in; a name that is taken stays with the first who had it. -/
def add (c : Cast) (e : Entity) : Cast :=
  let names := if c.isFree e.name then c.names.insert (nameKey e.name) (e.kind, e.id) else c.names
  { c with names }.mapKind e.kind (·.insert e.id e)

def find? (c : Cast) (name : String) : Option Entity :=
  (c.names.get? (nameKey name)).bind fun who => (c.ofKind who.1).get? who.2

def modify (c : Cast) (name : String) (f : Entity → Entity) : Cast :=
  match c.names.get? (nameKey name) with
  | some who => c.mapKind who.1 (·.modify who.2 f)
  | none => c

def tag? (c : Cast) (name : String) : Option String :=
  (c.find? name).map (·.tag)

def isEgo (c : Cast) (name : String) : Bool :=
  match c.find? name with
  | some e => e.kind = .ego
  | none => false

def all (c : Cast) : List Entity :=
  c.egos.values ++ c.vehicles.values ++ c.pedestrians.values ++ c.obstacles.values

def map (c : Cast) (f : Entity → Entity) : Cast :=
  { c with
    egos := c.egos.map f
    vehicles := c.vehicles.map f
    pedestrians := c.pedestrians.map f
    obstacles := c.obstacles.map f }

def size (c : Cast) : Nat :=
  c.egos.size + c.vehicles.size + c.pedestrians.size + c.obstacles.size

end Cast

end Scenography
