import Scenography.Staging.Basic

namespace Scenography.Staging

open Markup (Element)

inductive Declaration
  | vehicle (e : Element)
  | pedestrian (e : Element)
  | miscObject (e : Element)
  | catalogued (kind : CatalogKind) (name : String)

def declaration? (object : Element) : Staging (Option Declaration) :=
  match object.child? "Vehicle", object.child? "Pedestrian", object.child? "MiscObject",
      object.child? "CatalogReference" with
  | some e, _, _, _ => return some (.vehicle e)
  | none, some e, _, _ => return some (.pedestrian e)
  | none, none, some e, _ => return some (.miscObject e)
  | none, none, none, some reference => do
    let catalog ← attr reference "catalogName"
    let name ← attr reference "entryName"
    return (CatalogKind.ofCatalogName? catalog).map (.catalogued · name)
  | none, none, none, none => return none

def isEgoName (name : String) : Bool :=
  name = "Ego" || name = "ego"

/-- An ego by name, or one that is controlled from outside. -/
def isEgo (name : String) (vehicle : Element) : Staging Bool := do
  if isEgoName name then return true
  match vehicle.property? "control" with
  | none => return false
  | some raw => return (← resolve raw) = "external"

def isWalker (s : Settings) (type : String) : Bool :=
  s.isPedestrianType type ||
    match s.aliases.pedestrian.get? type with
    | some target => s.isPedestrianType target
    | none => false

def properties (e : Option Element) : Staging (KeyMap String String) := do
  let listed := (e.map (·.properties)).getD []
  return .ofList (← listed.mapM fun p => return (p.1, ← resolve p.2))

def box? (e : Option Element) : Staging (Option Box) :=
  (e.bind (·.descend? ["BoundingBox", "Dimensions"])).mapM fun d =>
    return ⟨← value d "length", ← value d "width", ← value d "height"⟩

def performance? (e : Option Element) : Staging (Option Performance) :=
  (e.bind (·.child? "Performance")).mapM fun p =>
    return ⟨← value p "maxSpeed", ← value p "maxAcceleration", ← value p "maxDeceleration"⟩

def behavior (properties : KeyMap String String) (standard : Behavior) : Staging Behavior :=
  match properties.get? "Behavior" with
  | none => return standard
  | some raw =>
    match Behavior.ofText? raw with
    | some b => return b
    | none => do
      warn "UNKNOWN_BEHAVIOR" ("behavior \"" ++ raw ++ "\" is not supported, using " ++ standard.label)
      return standard

def numberProperty? (properties : KeyMap String String) (name : String) : Option Float :=
  ((properties.get? name).filter (!Text.allBlank ·)).map lenient

def topSpeed (s : Settings) (p : Performance) : Float :=
  if 0.0 < p.maxSpeed then p.maxSpeed else s.vehicleSpeed

def groupName (id : Nat) : String :=
  let ds := Decimal.digits id
  "Ego_" ++ String.ofList (Number.zeros (3 - ds.length) ++ ds)

def category (vehicle : Option Element) (type : String) : Staging String :=
  match vehicle with
  | some e => attrOr e "vehicleCategory" "car"
  | none => return if Text.sameAscii type "truck" then "combination" else "car"

def controller? (object : Element) : Staging (Option String) :=
  match object.descend? ["ObjectController", "Controller"] with
  | none => return none
  | some e => return (← attr? e "name").filter (· ≠ "")

def ego (name : String) (object : Element) (vehicle : Option Element) (type : String) : Staging Entity := do
  let resolution ← lookUp .ego type
  let properties ← properties vehicle
  let category ← category vehicle resolution.type
  let authored ← performance? vehicle
  let performance := (authored.or (resolution.entry.bind (·.performance))).getD {}
  let box ← box? vehicle
  let followsTrajectory := properties.get? "Behavior" = some "TrajectoryFollow"
  let controller ← controller? object
  let id ← count (·.nextEntity .ego)
  return {
    id, name
    type := resolution.type
    box := (box.or (resolution.entry.bind (·.box))).getD .ofVehicle
    behavior := if followsTrajectory then .trajectory else .scripted
    maxSpeed := topSpeed (← read).settings performance
    profile := .ego {
      group := groupName id
      category, performance, followsTrajectory, controller
      sensors := properties.get? "SensorGroup"
      tracking := properties.get? "TrajectoryTracking" } }

def vehicle (name type : String) (e : Option Element) : Staging Entity := do
  let resolution ← lookUp .vehicle type
  let properties ← properties e
  let authored ← performance? e
  let performance := ((resolution.entry.bind (·.performance)).or authored).getD {}
  let box ← box? e
  let behavior ← behavior properties .scripted
  let id ← count (·.nextEntity .vehicle)
  return {
    id, name, behavior
    type := resolution.type
    box := (box.or (resolution.entry.bind (·.box))).getD .ofVehicle
    maxSpeed := topSpeed (← read).settings performance
    profile := .vehicle {
      performance
      aggress := properties.get? "Aggress"
      follow := properties.get? "Follow"
      angle := numberProperty? properties "TrajectoryAngle"
      tracking := properties.get? "TrajectoryTracking"
      sensors := properties.get? "SensorGroup"
      onboardUnit := properties.get? "ObuStatus" } }

def endTime : Float := 1000.0

def pedestrian (name type : String) (e : Option Element) (standard : Behavior) : Staging Entity := do
  let resolution ← lookUp .pedestrian type
  let properties ← properties e
  let box ← box? e
  let behavior ← behavior properties standard
  let id ← count (·.nextEntity .pedestrian)
  return {
    id, name, behavior
    type := resolution.type
    box := (box.or (resolution.entry.bind (·.box))).getD .ofObstacle
    startSpeed := (numberProperty? properties "StartV").getD 0.0
    maxSpeed := ((numberProperty? properties "MaxV").filter (0.0 ≤ ·)).getD (← read).settings.pedestrianSpeed
    profile := .pedestrian {
      startTime := 0.0
      endTime
      angle := numberProperty? properties "Angle"
      tracking := properties.get? "TrajectoryTracking" } }

def obstacle (name type : String) (e : Option Element) : Staging Entity := do
  let resolution ← lookUp .miscObject type
  let box ← box? e
  let id ← count (·.nextEntity .obstacle)
  return {
    id, name
    type := resolution.type
    box := (box.or (resolution.entry.bind (·.box))).getD .ofObstacle
    behavior := .scripted
    profile := .obstacle }

/-- A declared vehicle is an ego, a walker or a vehicle proper. -/
def ofVehicle (name : String) (object e : Element) : Staging Entity := do
  if ← isEgo name e then ego name object (some e) (← attr e "name")
  else
    let type ← attr e "name"
    if isWalker (← read).settings type then pedestrian name type (some e) .scripted
    else vehicle name type (some e)

def ofCatalogued (name : String) (object : Element) (kind : CatalogKind) (type : String) : Staging Entity := do
  match kind with
  | .pedestrian => pedestrian name type none .trajectory
  | .miscObject => obstacle name type none
  | .vehicle | .ego =>
    if isEgoName name then ego name object none type
    else if isWalker (← read).settings type then pedestrian name type none .scripted
    else vehicle name type none

def ofDeclaration (name : String) (object : Element) : Declaration → Staging Entity
  | .vehicle e => ofVehicle name object e
  | .pedestrian e => do
    match (← attr? e "model").filter (· ≠ "") with
    | some model => pedestrian name model (some e) .trajectory
    | none => pedestrian name (← attr e "name") (some e) .trajectory
  | .miscObject e => do
    obstacle name (← attr e "name") (some e)
  | .catalogued kind type => ofCatalogued name object kind type

def entity? (object : Element) : Staging (Option Entity) := do
  match (← attr? object "name").filter (· ≠ "") with
  | none => refuse "ENTITY_SKIPPED" (object.describe ++ " has no name")
  | some name =>
    match ← declaration? object with
    | none => refuse "ENTITY_SKIPPED" ("\"" ++ name ++ "\" has no supported declaration")
    | some d => some <$> ofDeclaration name object d

end Scenography.Staging
