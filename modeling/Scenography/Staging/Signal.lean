import Scenography.Staging.Basic

namespace Scenography.Staging

open Markup (Element)

structure LightNames where
  red : List String
  green : List String
  yellow : List String

namespace LightNames

def standard : LightNames := ⟨["red"], ["green", "go"], ["yellow", "blink"]⟩

def compact : LightNames := ⟨["stop"], ["go"], ["attention"]⟩

def set (n : LightNames) (l : Lights) (name : String) (seconds : Float) : Lights where
  red := if n.red.contains name then seconds else l.red
  green := if n.green.contains name then seconds else l.green
  yellow := if n.yellow.contains name then seconds else l.yellow

end LightNames

def lights (names : LightNames) (phases : List Element) : Staging Lights :=
  phases.foldlM (fun l phase => return names.set l (← attr phase "name") (← value phase "duration")) {}

def heads (phase : Element) : List String :=
  (phase.childrenNamed "TrafficSignalState").filterMap (·.attr? "trafficSignalId")

abbrev Approaches := KeyMap String Nat

/-- The approach a compact description names, which is made a route when it is first named. -/
def approach (controller : String) (compact : KeyMap String String) (known : Approaches) :
    Staging (Option Nat × Approaches) := do
  match compact.get? "routeid" with
  | none => return (none, known)
  | some key =>
    match known.get? key with
    | some id => return (some id, known)
    | none =>
      let id ← count (·.nextRoute)
      let route : Route := {
        id, owner := controller, kind := .approach, start := (compact.get? "route").getD "", stop := none
        between := "", path := [] }
      modify fun s => { s with routes := s.routes.insert id route }
      return (some id, known.insert key id)

def compactOf (ps : Parameters) (controller : String) : KeyMap String String :=
  ((ps.get? ("TrafficInfo_" ++ controller)).map fun p => Compact.read p.value).getD ∅

def compactPlan (id : Nat) (controller active : String) (phases : List Element) (known : Approaches) :
    Staging (SignalPlan × Approaches) := do
  let lights ← lights .compact phases
  let compact := compactOf (← get).parameters controller
  let (route, known) ← approach controller compact known
  return ({
    id, controller, lights, route, compact
    plan := (compact.get? "plan").getD active
    startTime := (compact.get? "start_t").getD ""
    junction := compact.get? "junctionid"
    laneOffset := compact.get? "l_offset"
    phase := compact.get? "phase"
    phaseNumber := compact.get? "phaseNumber"
    status := compact.get? "status"
    lanes := compact.get? "lane"
    heads := (phases.head?.map heads).getD [] }, known)

def standardPlan : String := "1"

/-- The plan of one controller. Where a plan is active, compact descriptions hold. -/
def signalPlan (active : Option String) (e : Element) (known : Approaches) :
    Staging (SignalPlan × Approaches) := do
  let controller ← attr e "name"
  let phases := e.childrenNamed "Phase"
  let id ← count (·.nextSignal)
  match active with
  | some plan => compactPlan id controller plan phases known
  | none =>
    let lights ← lights .standard phases
    return ({ id, controller, lights, plan := standardPlan, heads := (phases.head?.map heads).getD [] }, known)

def signalPlans (active : Option String) : Approaches → List Element → Staging (List SignalPlan)
  | _, [] => return []
  | known, e :: es => do
    let (plan, known) ← signalPlan active e known
    return plan :: (← signalPlans active known es)

def signals (network : Element) : Staging (KeyMap Nat SignalPlan) :=
  match network.child? "TrafficSignals" with
  | none => return ∅
  | some e => do
    let active := ((← get).parameters.get? "ActivePlan").map (·.value)
    let plans ← signalPlans active ∅ (e.childrenNamed "TrafficSignalController")
    return .ofList (plans.map fun p => (p.id, p))

/-- Applies a `TrafficSignalControllerAction`: the first signal of the controller starts in the
phase. -/
def signalAction (action : Element) : Staging Unit := do
  let controller ← attr action "trafficSignalControllerRef"
  let phase ← attr action "phase"
  match (← get).signals.entries.find? (·.2.controller = controller) with
  | some (id, _) =>
    modify fun s => { s with signals := s.signals.modify id fun p => { p with startTime := phase } }
  | none => warn "UNKNOWN_SIGNAL" ("signal controller \"" ++ controller ++ "\" is not declared")

end Scenography.Staging
