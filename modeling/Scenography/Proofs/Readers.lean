import Scenography.Proofs.Execution
import Scenography.Staging.Document

namespace Scenography.Staging

open Markup (Element)

section Attributes

variable (e : Element) (name : String)

@[grind ←] theorem resolve_reads (token : String) : Reads (resolve token) := by
  unfold resolve
  refine .get_bind (fun s => ?_) fun s j => rfl
  split
  · exact .pure _
  · exact .bind (.record _) fun _ => .pure _

@[grind ←] theorem attr?_reads : Reads (attr? e name) :=
  .optionMapM resolve_reads

@[grind ←] theorem attrOr_reads (standard : String) : Reads (attrOr e name standard) :=
  .bind (attr?_reads e name) fun _ => .pure _

@[grind ←] theorem attr_reads : Reads (attr e name) :=
  attrOr_reads e name ""

@[grind ←] theorem number_reads : Reads (number e name) :=
  .bind (attr?_reads e name) fun _ => .pure _

@[grind ←] theorem value_reads : Reads (value e name) :=
  .bind (number_reads e name) fun _ => .pure _

@[grind ←] theorem isTrue_reads : Reads (isTrue e name) :=
  .bind (attr?_reads e name) fun _ => .pure _

@[grind ←] theorem lookUp_reads (kind : CatalogKind) : Reads (lookUp kind name) := by
  unfold lookUp
  refine .bind .read fun sources => ?_
  split
  · exact .pure _
  · exact .bind (.record _) fun _ => .pure _

end Attributes

section Positions

variable (shape : Element)

@[grind ←] theorem anchor?_reads : Reads (anchor? shape) := by
  unfold anchor?
  grind

@[grind ←] theorem onMap_reads (found : Option Spot) : Reads (onMap shape found) := by
  unfold onMap
  grind

@[grind ←] theorem worldSpot_reads : Reads (worldSpot shape) := by
  unfold worldSpot
  refine .bind (value_reads _ _) fun x => .bind (value_reads _ _) fun y => .bind (value_reads _ _) fun z =>
    .bind (value_reads _ _) fun heading => .get_bind (fun s => ?_) fun s j => rfl
  split
  · grind
  · refine .bind (.ask _) fun p => ?_
    grind

@[grind ←] theorem relativeWorldSpot_reads : Reads (relativeWorldSpot shape) := by
  unfold relativeWorldSpot
  refine .bind (anchor?_reads _) fun a => ?_
  cases a with
  | none => exact .pure none
  | some a =>
    refine .bind (.ask _) fun p => ?_
    cases p with
    | none => exact .pure none
    | some p =>
      refine .bind (value_reads _ _) fun dz => .bind (value_reads _ _) fun dx => ?_
      refine .bind (value_reads _ _) fun dy => ?_
      grind

@[grind ←] theorem heading?_reads : Reads (heading? shape) := by
  unfold heading?
  grind

@[grind ←] theorem laneSpot_reads : Reads (laneSpot shape) := by
  unfold laneSpot
  grind

@[grind ←] theorem relativeLaneSpot_reads (a : Pose) : Reads (relativeLaneSpot shape a) := by
  unfold relativeLaneSpot
  grind

@[grind ←] theorem roadSpot_reads : Reads (roadSpot shape) := by
  unfold roadSpot
  grind

@[grind ←] theorem relativeRoadSpot_reads (a : Pose) : Reads (relativeRoadSpot shape a) := by
  unfold relativeRoadSpot
  grind

@[grind ←] theorem fromAnchor_reads {f : Pose → Staging (Option Spot)} (hf : ∀ a, Reads (f a)) :
    Reads (fromAnchor shape f) := by
  unfold fromAnchor
  grind

@[grind ←] theorem shapeSpot_reads : Reads (shapeSpot shape) := by
  unfold shapeSpot
  grind

@[grind ←] theorem spot?_reads (position : Element) : Reads (spot? position) := by
  unfold spot?
  grind

end Positions

section Plans

variable (e : Element)

@[grind ←] theorem catalogued?_reads (find : Catalog → String → Option Element) :
    Reads (catalogued? e find) := by
  unfold catalogued?
  split
  · exact .pure none
  · refine .bind (attr_reads _ _) fun entry => .bind .read fun sources => ?_
    split
    · exact .pure _
    · exact .bind (.record _) fun _ => .pure none

@[grind ←] theorem spots_reads (holders : List Element) : Reads (spots holders) :=
  .filterMap spot?_reads

@[grind ←] theorem assignedPlan_reads : Reads (assignedPlan e) := by
  unfold assignedPlan
  dsimp only
  split
  · exact .bind (.pure _) fun _ => .optionMapM fun _ => .bind (spots_reads _) fun _ => .pure _
  · exact .bind (catalogued?_reads _ _) fun _ => .optionMapM fun _ => .bind (spots_reads _) fun _ => .pure _

@[grind ←] theorem trajectory?_reads : Reads (trajectory? e) := by
  unfold trajectory?
  split
  · exact .pure _
  · exact catalogued?_reads _ _

@[grind ←] theorem trajectoryPlan_reads : Reads (trajectoryPlan e) :=
  .bind (trajectory?_reads e) fun _ => .optionMapM fun _ => .bind (spots_reads _) fun _ => .pure _

@[grind ←] theorem acquiredPlan_reads (owner : String) : Reads (acquiredPlan owner e) := by
  unfold acquiredPlan
  refine .bind .getCast fun cast => ?_
  dsimp only
  split
  · exact .bind (spot?_reads _) fun _ => .pure _
  · exact .pure _

@[grind ←] theorem routePlan_reads (owner : String) : Reads (routePlan owner e) := by
  unfold routePlan
  split
  · exact assignedPlan_reads _
  · exact trajectoryPlan_reads _
  · exact .bind (acquiredPlan_reads _ _) fun _ => .pure _
  · exact .refuse _ _

end Plans

section Conditions

variable (actor name source : String) (e : Element)

@[grind ←] theorem comparison_reads : Reads (comparison e) := by
  unfold comparison
  grind

@[grind ←] theorem entityTag_reads : Reads (entityTag name) := by
  unfold entityTag
  grind

@[grind ←] theorem entityName?_reads (e : Option Element) : Reads (entityName? e) := by
  unfold entityName?
  grind

@[grind ←] theorem timeTest_reads : Reads (timeTest e) := by
  unfold timeTest
  grind

@[grind ←] theorem laneAttachTest_reads : Reads (laneAttachTest name e).run := by
  unfold laneAttachTest
  grind

@[grind ←] theorem elementStateTest_reads : Reads (elementStateTest e) := by
  unfold elementStateTest
  grind

@[grind ←] theorem distanceMode_reads (straight : String) : Reads (distanceMode e name straight) := by
  unfold distanceMode
  grind

@[grind ←] theorem timeToCollisionTest_reads : Reads (timeToCollisionTest name source e).run := by
  unfold timeToCollisionTest
  refine .run_bind (.run_lift (entityName?_reads _)) fun target => ?_
  cases target with
  | none => exact .run_throw _
  | some target =>
    refine .run_bind (.run_lift (distanceMode_reads _ _ _)) fun mode => ?_
    grind

@[grind ←] theorem relativeDistanceTest_reads : Reads (relativeDistanceTest source e) := by
  unfold relativeDistanceTest
  grind

@[grind ←] theorem pointAhead_reads (spot : Spot) (distance : Float) : Reads (pointAhead name spot distance) := by
  unfold pointAhead
  grind

@[grind ←] theorem distanceTest_reads : Reads (distanceTest name source e).run := by
  unfold distanceTest
  refine .run_bind (.run_lift (number_reads _ _)) fun distance => ?_
  split
  all_goals
    refine .run_bind (by grind) fun spot => ?_
    cases spot with
    | none => exact .run_throw _
    | some spot =>
      refine .run_bind (.run_lift (pointAhead_reads _ _ _)) fun point => ?_
      grind

@[grind ←] theorem worldGoal_reads (tolerance : Float) : Reads (worldGoal e tolerance) := by
  unfold worldGoal
  grind

@[grind ←] theorem laneGoal_reads (tolerance : Float) : Reads (laneGoal e tolerance) := by
  unfold laneGoal
  grind

@[grind ←] theorem goal?_reads (tolerance : Float) : Reads (goal? e tolerance) := by
  unfold goal?
  grind

@[grind ←] theorem reachTest_reads : Reads (reachTest name source e).run := by
  unfold reachTest
  grind

@[grind ←] theorem speedTest_reads (target : Option String) (frame : SpeedFrame) :
    Reads (speedTest actor target frame e) := by
  unfold speedTest
  grind

@[grind ←] theorem headwayTest_reads : Reads (headwayTest source e) := by
  unfold headwayTest
  grind

@[grind ←] theorem test_reads (source? : Option String) (b : Branch) :
    Reads (test actor name source? e b).run := by
  cases b <;> grind [test]

@[grind ←] theorem condition_reads : Reads (condition actor e).run := by
  unfold condition
  refine .run_bind (.run_lift (attr_reads _ _)) fun name => ?_
  split
  · exact .run_throw _
  · refine .run_bind (.run_lift (entityName?_reads _)) fun source => ?_
    refine .run_bind (test_reads _ _ _ _ _) fun test => ?_
    grind

@[grind ←] theorem trigger_reads : Reads (trigger actor e).run :=
  .run_listMapM fun c => condition_reads actor c

end Conditions

end Scenography.Staging
