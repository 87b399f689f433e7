import Scenography.References
import Scenography.Staging.Entity
import Scenography.Staging.Signal
import Scenography.Staging.Story
import Scenography.Staging.Weather
import Scenography.Text.Path

namespace Scenography

open Markup (Element)

structure Sections where
  header : Element
  entities : Element
  storyboard : Element
  init : Element

namespace Sections

def rootName : String := "OpenSCENARIO"

def require (e : Element) (name : String) (reason : String) : Except Fault Element :=
  match e.child? name with
  | some child => .ok child
  | none => .error (.malformedDocument reason)

def «section» (root : Element) (name : String) : Except Fault Element :=
  require root name ("missing <" ++ name ++ "> section")

def ofRoot (root : Element) : Except Fault Sections :=
  if root.name ≠ rootName then
    .error (.malformedDocument ("root element is <" ++ root.name ++ ">, expected <" ++ rootName ++ ">"))
  else do
    let storyboard ← «section» root "Storyboard"
    let init ← require storyboard "Init" "missing <Init> in <Storyboard>"
    let header ← «section» root "FileHeader"
    let entities ← «section» root "Entities"
    return { header, entities, storyboard, init }

end Sections

namespace Staging

def header (e : Element) : Staging Unit := do
  let dialect := Dialect.ofAuthor (← attr e "author")
  modify fun s => { s with dialect }
  let description ← attr e "description"
  modify fun s => { s with description }

def mapDirectory : String := "../hadmap"

def mapFile? (logic : Element) : Staging (Option String) := do
  return (Path.fileName? (← attr logic "filepath")).map fun name => mapDirectory ++ "/" ++ name

def roadNetwork (e : Element) : Staging Unit := do
  match e.child? "LogicFile" with
  | some logic =>
    let mapFile ← mapFile? logic
    modify fun s => { s with mapFile }
  | none => pure ()
  let signals ← signals e
  modify fun s => { s with signals }

def enter (e : Entity) : Staging Unit := do
  let isFree := (← getCast).isFree e.name
  modify fun s => { s with cast := s.cast.add e }
  if isFree then return
  else warn "DUPLICATE_ENTITY" ("entity name \"" ++ e.name ++ "\" is declared more than once")

def entities (e : Element) : Staging Unit :=
  (e.childrenNamed "ScenarioObject").forM fun object => do
    match ← entity? object with
    | some entity => enter entity
    | none => return

def globalAction (e : Element) : Staging Unit := do
  match e.descend? ["InfrastructureAction", "TrafficSignalAction", "TrafficSignalControllerAction"] with
  | some action => signalAction action
  | none => pure ()
  match e.child? "EnvironmentAction" with
  | some action =>
    match ← weather? action with
    | some w => modify fun s => { s with weather := s.weather.insert w.timestamp w }
    | none => return
  | none => return

/-- The larger; a number beats no number. -/
def larger (x y : Float) : Float :=
  if x.isNaN then y else if y.isNaN then x else if x < y then y else x

def startSpeed (owner : String) (target : Element) : Staging Unit := do
  let speed ← value target "value"
  modifyEntity owner fun e => { e with startSpeed := speed, maxSpeed := larger e.maxSpeed speed }

def activateEgo (lateral longitudinal : Bool) (e : Entity) : Entity :=
  match e.profile with
  | .ego p => { e with profile := .ego { p with lateral, longitudinal } }
  | _ => e

def startController (owner : String) (e : Element) : Staging Unit := do
  let lateral ← isTrue e "lateral"
  let longitudinal ← isTrue e "longitudinal"
  if (← getCast).isEgo owner then modifyEntity owner (activateEgo lateral longitudinal)
  else
    warn "UNSUPPORTED_ACTION"
      ("controller activation at init only applies to egos, not \"" ++ owner ++ "\"")

def initAction (owner : String) (e : Element) : Staging Unit :=
  match e.child? "TeleportAction",
      e.descend? ["LongitudinalAction", "SpeedAction", "SpeedActionTarget", "AbsoluteTargetSpeed"],
      e.child? "ActivateControllerAction" with
  | some action, _, _ => teleport owner action
  | none, some target, _ => startSpeed owner target
  | none, none, some action => startController owner action
  | none, none, none =>
    warn "UNSUPPORTED_ACTION" (e.describe ++ " is not supported at init for \"" ++ owner ++ "\"")

def initRouting (owner : String) (e : Element) : Staging Unit := do
  match ← routePlan owner e with
  | some plan => discard (attachRoute owner plan)
  | none => return

/-- What an entity does first. Routes come last, for they may start where it was put. -/
def initPrivate (e : Element) : Staging Unit := do
  let owner ← attr e "entityRef"
  match (← getCast).find? owner with
  | none => warn "UNKNOWN_ENTITY" ("init actions for unknown entity \"" ++ owner ++ "\"")
  | some _ =>
    let actions := e.childrenNamed "PrivateAction"
    (actions.filter (!·.hasChild "RoutingAction")).forM (initAction owner)
    (actions.filterMap (·.child? "RoutingAction")).forM (initRouting owner)

def implicitRoutes : Staging Unit := do
  let unrouted := (← getCast).all.filterMap fun e =>
    if e.route.isSome then none else e.pose.map fun p => (e.name, RoutePlan.ofPose p)
  unrouted.forM fun (owner, plan) => discard (attachRoute owner plan)

def init (e : Element) : Staging Unit :=
  match e.child? "Actions" with
  | none => return
  | some actions => do
    (actions.childrenNamed "GlobalAction").forM globalAction
    (actions.childrenNamed "Private").forM initPrivate
    implicitRoutes

def shareTimelines : Staging Unit :=
  modify fun s => { s with cast := { s.cast with vehicles := s.cast.vehicles.map Entity.withSharedTimelines } }

/-- All of a document before its stories, in the order its parts build on each other. -/
def opening (root : Element) (s : Sections) : Staging Unit := do
  header s.header
  match root.child? "ParameterDeclarations" with
  | some e => modify fun s => { s with parameters := s.parameters.declareAll e }
  | none => pure ()
  match root.child? "RoadNetwork" with
  | some e => roadNetwork e
  | none => pure ()
  entities s.entities
  init s.init
  modify fun s => { s with parameters := s.parameters.lock }

def document (root : Element) (s : Sections) : Staging Unit := do
  opening root s
  (s.storyboard.childrenNamed "Story").forM story
  shareTimelines

end Staging

def Stage.scene (s : Stage) : Scene where
  dialect := s.dialect
  description := s.description
  mapFile := s.mapFile
  parameters := s.parameters.declared
  egos := s.cast.egos
  vehicles := s.cast.vehicles
  pedestrians := s.cast.pedestrians
  obstacles := s.cast.obstacles
  routes := s.routes
  signals := s.signals
  timelines := s.timelines
  events := s.events
  egoEvents := s.egoEvents
  plannerEvents := s.plannerEvents
  weather := s.weather

def stage (sources : Sources) (root : Element) : Inquiry (Except Fault Staged) :=
  match Sections.ofRoot root with
  | .error f => .done (.error f)
  | .ok sections => do
    let (_, s) ← (Staging.document root sections).run sources |>.run {}
    return .ok ⟨s.scene.withReferences, s.journal⟩

/-- Findings about a text that could not be staged, added to the failure's message. -/
def Failure.explained (f : Failure) (findings : List String) : Failure :=
  if findings.isEmpty then f
  else { f with message := f.message ++ " Schema findings: " ++ Text.join "; " findings }

def Failure.ofMarkup : Failure :=
  ⟨"XML_PARSE_ERROR", "The text is not a well-formed document."⟩

def stageText (sources : Sources) (source : String) : Inquiry (Except Failure Staged) :=
  match Markup.read? source with
  | none => .done (.error .ofMarkup)
  | some root => do return (← stage sources root).mapError Failure.ofFault

end Scenography
