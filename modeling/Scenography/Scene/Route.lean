import Scenography.Number.Text

namespace Scenography

structure Waypoint where
  lon : Float
  lat : Float
  alt : Float
  heading : Float
  road : Option UInt64
  lane : Option Int64
  shift : Option Float
  offset : Option Float

def Waypoint.summary (w : Waypoint) : String :=
  Number.fixed 8 w.lon ++ "," ++ Number.fixed 8 w.lat ++ "," ++ Number.tidy w.alt

inductive RouteKind
  | implicit | assigned | trajectory | acquired
  | approach
deriving DecidableEq, Repr

structure Route where
  id : Nat
  owner : String
  kind : RouteKind
  start : String
  stop : Option String
  between : String
  path : List Waypoint

end Scenography
