import Scenography.Staging.Position

namespace Scenography

structure RoutePlan where
  kind : RouteKind
  spots : List Spot

/-- The plan of an entity that only stands somewhere. -/
def RoutePlan.ofPose (p : Pose) : RoutePlan :=
  ⟨.implicit, [.ofPose p]⟩

def Route.through (id : Nat) (owner : String) (kind : RouteKind) (first : Waypoint)
    (rest : List Waypoint) : Route where
  id
  owner
  kind
  start := first.summary
  stop := rest.getLast?.map (·.summary)
  between := String.intercalate ";" (rest.dropLast.map (·.summary))
  path := first :: rest

namespace Staging

open Markup (Element)

/-- A catalogued element in place of one that is missing; without a reference there is none. -/
def catalogued? (holder : Element) (find : Catalog → String → Option Element) : Staging (Option Element) := do
  match holder.child? "CatalogReference" with
  | none => return none
  | some reference =>
    let name ← attr reference "entryName"
    match find (← read).catalog name with
    | some e => return some e
    | none =>
      record (.catalogMiss ((reference.attr? "catalogName").getD "Route") name)
      return none

def spots (holders : List Element) : Staging (List Spot) :=
  filterMap spot? (holders.filterMap (·.child? "Position"))

def assignedPlan (action : Element) : Staging (Option RoutePlan) := do
  let route? ← match action.child? "Route" with
    | some route => pure (some route)
    | none => catalogued? action (·.route?)
  route?.mapM fun route => return ⟨.assigned, ← spots (route.childrenNamed "Waypoint")⟩

def trajectory? (action : Element) : Staging (Option Element) :=
  match (action.child? "Trajectory").or (action.descend? ["TrajectoryRef", "Trajectory"]) with
  | some trajectory => return some trajectory
  | none => catalogued? ((action.child? "TrajectoryRef").getD action) (·.trajectory?)

def vertices (trajectory : Element) : List Element :=
  ((trajectory.descend? ["Shape", "Polyline"]).map (·.childrenNamed "Vertex")).getD []

def trajectoryPlan (action : Element) : Staging (Option RoutePlan) := do
  (← trajectory? action).mapM fun t => return ⟨.trajectory, ← spots (vertices t)⟩

def acquiredPlan (owner : String) (action : Element) : Staging RoutePlan := do
  let pose := ((← getCast).find? owner).bind (·.pose)
  let goal ← match action.child? "Position" with
    | some position => spot? position
    | none => pure none
  return ⟨.acquired, (pose.map Spot.ofPose).toList ++ goal.toList⟩

def routePlan (owner : String) (routing : Element) : Staging (Option RoutePlan) := do
  match routing.child? "AssignRouteAction", routing.child? "FollowTrajectoryAction",
      routing.child? "AcquirePositionAction" with
  | some action, _, _ => assignedPlan action
  | none, some action, _ => trajectoryPlan action
  | none, none, some action => return some (← acquiredPlan owner action)
  | none, none, none =>
    refuse "UNSUPPORTED_ACTION" (routing.describe ++ " has no supported routing branch")

/-- Makes a plan the owner's route and gives the route's number. An empty plan is none, and whoever
has a route keeps it. -/
def attachRoute (owner : String) (plan : RoutePlan) : Staging (Option Nat) := do
  match plan.spots with
  | [] =>
    record (.emptyRoute owner)
    return none
  | first :: rest =>
    match (← getCast).find? owner with
    | none => refuse "UNKNOWN_ENTITY" ("route for unknown entity \"" ++ owner ++ "\"")
    | some e =>
      match e.route with
      | some held =>
        refuse "ROUTE_IGNORED" ("\"" ++ owner ++ "\" already holds route " ++ toString held)
      | none =>
        let id ← count (·.nextRoute)
        modifyEntity owner fun e => { e with route := some id }
        let route := Route.through id owner plan.kind first.waypoint (rest.map (·.waypoint))
        modify fun s => { s with routes := s.routes.insert id route }
        return some id

end Staging

end Scenography
