import Scenography.Staging.Action
import Scenography.Staging.Condition

namespace Scenography.Staging

open Markup (Element)

/-- The story parameter that says how often a condition may fire. -/
def countKey (isEgo : Bool) (actor event : String) (index : Nat) : String :=
  (if isEgo then "$ego" else "$" ++ actor) ++ "_triggercount$" ++ event ++ "$Condition_" ++ toString index

def count? (raw : String) : Option Nat :=
  let ds := match raw.toList with
    | '+' :: ds => ds
    | ds => ds
  match Number.leadDigits 0 0 ds with
  | (_, 0, _) => none
  | (n, _, []) => if n < UInt32.size then some n else none
  | _ => none

def storyParameters (story : Element) : KeyMap String String :=
  let listed := ((story.child? "ParameterDeclarations").map (·.childrenNamed "ParameterDeclaration")).getD []
  .ofList (listed.filterMap fun d =>
    match d.filledAttr? "value", d.attr? "name" with
    | some value, some name => some (name, value)
    | _, _ => none)

/-- The value a story gives a key, with or without the key's sigil. -/
def override? (overrides : KeyMap String String) (key : String) : Option String :=
  (overrides.get? key).or (overrides.get? (Parameters.bareName key))

def withCount (overrides : KeyMap String String) (key : String) (c : Condition) : Staging Condition :=
  match override? overrides key with
  | none => return c
  | some raw =>
    match count? (Text.trim raw) with
    | some count => return { c with count }
    | none => do
      warn "INVALID_TRIGGER_COUNT" ("trigger count \"" ++ raw ++ "\" for " ++ key ++ " is not a count")
      return c

def withCounts (overrides : KeyMap String String) (actor event : String) (conditions : List Condition) :
    Staging (List Condition) := do
  let isEgo := (← getCast).isEgo actor
  conditions.zipIdx.mapM fun (c, index) => withCount overrides (countKey isEgo actor event index) c

def startConditions (actor : String) (event : Element) : Attempt (List Condition) :=
  match event.child? "StartTrigger" with
  | some e => trigger actor e
  | none => return []

def feed (actor : String) (cue : Cue) (f : Feed) : Staging Bool :=
  modifyGet fun s =>
    match s.cast.find? actor with
    | none => (false, s)
    | some entity =>
      let (stored, fed) := Feeding.add ⟨s.timelines, s.counters, entity⟩ cue f
      (stored, { s with
        timelines := fed.timelines
        counters := fed.counters
        cast := s.cast.modify actor fun _ => fed.entity })

def attachPlan (actor : String) (r : Request) : Staging Action :=
  match r.plan with
  | none => return r.action
  | some plan => do
    let route ← attachRoute actor plan
    return { r.action with effect := Effect.onRoute route r.action.effect }

def feedRequest (actor : String) (cue : Option Cue) (r : Request) : Staging Unit :=
  match r.feed, cue with
  | some f, some cue => do discard (feed actor cue f)
  | _, _ => return

/-- One action of an event, with all it brings about; one that fails is noted. -/
def action? (actor : String) (behavior : Behavior) (cue : Option Cue) (e : Element) :
    Staging (Option Action) := do
  match ← (request? actor behavior e).run with
  | .error f =>
    record f
    return none
  | .ok none => return none
  | .ok (some r) =>
    let action ← attachPlan actor r
    feedRequest actor cue r
    return some action

def storeEgoEvent (ego : Nat) (event : Event) : Staging Unit := do
  let id ← count (·.nextEgoEvent ego)
  let put (m : KeyMap Nat Events) : KeyMap Nat Events :=
    m.insert ego (((m.get? ego).getD ∅).insert id { event with id })
  modify fun s => { s with egoEvents := put s.egoEvents, plannerEvents := put s.plannerEvents }

def withEvent (id : Nat) (e : Entity) : Entity :=
  let events := if e.events.contains id then e.events else e.events ++ [id]
  match e.kind with
  | .vehicle => { e with events }
  | .pedestrian => { e with events, behavior := .trajectory }
  | .ego => e
  | .obstacle => e

def storeFreeEvent (event : Event) : Staging Unit := do
  let id ← count (·.nextEvent)
  match (← getCast).find? event.owner with
  | some _ => modifyEntity event.owner (withEvent id)
  | none =>
    warn "UNKNOWN_ENTITY" ("event \"" ++ event.name ++ "\" belongs to unknown entity \"" ++ event.owner ++ "\"")
  modify fun s => { s with events := s.events.insert id { event with id } }

def storeEvent (event : Event) : Staging Unit := do
  match ((← getCast).find? event.owner).filter (·.kind = .ego) with
  | some ego => storeEgoEvent ego.id event
  | none => storeFreeEvent event

def eventActions (actor : String) (conditions : List Condition) (e : Element) : Staging (List Action) := do
  let behavior := (((← getCast).find? actor).map (·.behavior)).getD .scripted
  filterMap (action? actor behavior (Cue.ofConditions? conditions)) (e.childrenNamed "Action")

/-- What an event becomes. It is kept if its conditions are understood and one of its actions has an
effect. -/
def draft (overrides : KeyMap String String) (actor : String) (e : Element) : Staging (Option Event) := do
  let name ← attr e "name"
  match ← (startConditions actor e).run with
  | .error f =>
    record f
    return none
  | .ok conditions =>
    let conditions ← withCounts overrides actor name conditions
    let actions ← eventActions actor conditions e
    if actions.isEmpty then return none
    else return some { id := 0, name, owner := actor, conditions, actions }

def event (overrides : KeyMap String String) (actor : String) (e : Element) : Staging Unit := do
  match ← draft overrides actor e with
  | some event => storeEvent event
  | none => return

def actor (group : Element) : Staging String :=
  match ((group.child? "Actors").map (·.childrenNamed "EntityRef")).bind (·.getLast?) with
  | some e => attr e "entityRef"
  | none => return ""

def cataloguedManeuver? (reference : Element) : Staging (Option Element) := do
  let name ← attr reference "entryName"
  match (← read).catalog.maneuver? name with
  | some e => return some e
  | none =>
    record (.catalogMiss "ManeuverCatalog" name)
    return none

/-- The maneuvers of a group, those of the catalog after its own. -/
def maneuvers (group : Element) : Staging (List Element) := do
  return group.childrenNamed "Maneuver" ++ (← filterMap cataloguedManeuver? (group.childrenNamed "CatalogReference"))

def group (overrides : KeyMap String String) (e : Element) : Staging Unit := do
  let actor ← actor e
  let maneuvers ← maneuvers e
  (maneuvers.flatMap (·.childrenNamed "Event")).forM (event overrides actor)

def story (e : Element) : Staging Unit := do
  discard (attr e "name")
  ((e.childrenNamed "Act").flatMap (·.childrenNamed "ManeuverGroup")).forM (group (storyParameters e))

end Scenography.Staging
