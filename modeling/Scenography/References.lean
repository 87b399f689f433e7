import Scenography.Scene.Basic

namespace Scenography

/-- What stands for an action's name: the place of its event and its own place there. -/
abbrev ActionTable := KeyMap String String

namespace References

def actionId (event action : Nat) : String :=
  toString event ++ "_" ++ toString action

def enterActions (table : ActionTable) (event : Nat) (actions : List Action) : ActionTable :=
  actions.zipIdx.foldl (fun table (action, place) => table.insert action.name (actionId event place)) table

def enterEvents (table : ActionTable) (events : List Event) : ActionTable :=
  events.zipIdx.foldl (fun table (event, place) => enterActions table place event.actions) table

def numberActions (e : Event) : Event :=
  { e with actions := e.actions.zipIdx.map fun (action, place) => { action with id := some place } }

def pointTest (table : ActionTable) : Test → Test
  | .elementState kind reference state =>
    .elementState kind ((table.get? reference).getD reference) state
  | test => test

def pointEvent (table : ActionTable) (e : Event) : Event :=
  { e with conditions := e.conditions.map fun c => { c with test := pointTest table c.test } }

def finishEvents (table : ActionTable) (events : Events) : Events :=
  events.map fun e => pointEvent table (numberActions e)

end References

open References

/-- Egos wait for actions of their own and of the others, which they number apart: a name of their
own comes first. -/
def Scene.withReferences (s : Scene) : Scene :=
  let table := enterEvents ∅ s.events.values
  let egoTable := enterEvents table s.allEgoEvents
  { s with
    events := finishEvents table s.events
    egoEvents := s.egoEvents.map (finishEvents egoTable)
    plannerEvents := s.plannerEvents.map (finishEvents egoTable) }

end Scenography
