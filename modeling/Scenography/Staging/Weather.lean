import Scenography.Staging.Basic

namespace Scenography.Staging

open Markup (Element)

def standardWindSpeed : Float := 1.0

def standardTemperature : Float := 30.0

def freezingPoint : Float := 273.15

/-- The environment of an action: its own, or one of the catalog. -/
def environment? (action : Element) : Staging (Option Element) := do
  match action.child? "Environment", action.child? "CatalogReference" with
  | some e, _ => return some e
  | none, none => return none
  | none, some reference =>
    let name ← attr reference "entryName"
    match (← read).catalog.environment? name with
    | some e => return some e
    | none =>
      record (.catalogMiss "EnvironmentCatalog" name)
      return none

def declared (e : Element) : KeyMap String String :=
  let listed := ((e.child? "ParameterDeclarations").map (·.childrenNamed "ParameterDeclaration")).getD []
  .ofList (listed.filterMap fun d =>
    match d.attr? "name", d.attr? "value" with
    | some name, some value => some (name, value)
    | _, _ => none)

def weatherOf (e : Element) : Staging Weather := do
  let declared := declared e
  let number? (name : String) : Option Float := (declared.get? name).map lenient
  let weather := e.child? "Weather"
  let precipitation := weather.bind (·.child? "Precipitation")
  let dateTime := (← (e.child? "TimeOfDay").mapM (attr · "dateTime")).getD ""
  let range := (← (weather.bind (·.child? "Fog")).mapM (value · "visualRange")).map (· / 1000.0)
  let kind := (← precipitation.mapM (attr · "precipitationType")).getD ""
  let intensity := (← precipitation.mapM (value · "intensity")).getD 0.0
  let clouds := (← weather.mapM (attr · "cloudState")).getD ""
  return {
    timestamp := ((number? "TimeStamp").map Number.toInt64).getD 0
    dateTime
    visibility := range.getD 0.0
    precipitation := kind
    intensity, clouds
    windSpeed := (number? "wind_speed").getD standardWindSpeed
    temperature := (((number? "temperature").or (number? "tmperature")).map (· - freezingPoint)).getD
      standardTemperature }

def weather? (action : Element) : Staging (Option Weather) := do
  (← environment? action).mapM weatherOf

end Scenography.Staging
