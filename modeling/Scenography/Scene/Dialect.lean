import Scenography.Text.Blank

namespace Scenography

inductive Dialect
  | legacy | v2 | v22 | other
deriving DecidableEq, Repr, Inhabited

namespace Dialect

def ofAuthor (author : String) : Dialect :=
  match Text.trim author with
  | "TAD Sim" => legacy
  | "VIRES OpenDRIVE Scenario Editor 2.1.0.495" => legacy
  | "TAD Sim V2.0" => v2
  | "TAD Sim V2.1" => v2
  | "TAD Sim V2.2" => v22
  | _ => other

/-- Positive target lanes and offsets lie to the right. -/
def countsRightward : Dialect → Bool
  | legacy => true
  | _ => false

def isGeographic : Dialect → Bool
  | v2 => true
  | _ => false

/-- A trajectory's angle follows the heading, whatever angle is authored. -/
def anglesFollowHeading : Dialect → Bool
  | v22 => true
  | _ => false

end Dialect

end Scenography
