import Scenography.KeyMap
import Scenography.Text.Split

namespace Scenography

structure Lights where
  red : Float := 0.0
  green : Float := 0.0
  yellow : Float := 0.0

structure SignalPlan where
  id : Nat
  controller : String
  lights : Lights
  plan : String
  startTime : String := ""
  route : Option Nat := none
  junction : Option String := none
  laneOffset : Option String := none
  phase : Option String := none
  phaseNumber : Option String := none
  status : Option String := none
  lanes : Option String := none
  heads : List String
  compact : KeyMap String String := ∅

namespace Compact

/-- The values of these keys are lists, with commas for the semicolons. -/
def isListKey (key : String) : Bool :=
  key = "phase" || key = "lane"

def item (text : String) : String × String :=
  let (key, value) := (Text.cut? ':' text).getD (text, "")
  (key, if isListKey key then Text.swap ',' ';' value else value)

/-- Reads `key:value;key:value`. -/
def read (text : String) : KeyMap String String :=
  KeyMap.ofList (((Text.split ';' text).filter (· ≠ "")).map item)

end Compact

end Scenography
