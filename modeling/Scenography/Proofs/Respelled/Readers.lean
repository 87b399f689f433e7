import Scenography.Proofs.Agreement
import Scenography.Proofs.Spelling
import Scenography.Staging.Condition
import Scenography.Staging.Route

namespace Scenography.Staging

open Markup (Element Spelling)

variable {K : Aside → Aside → Prop} {ps : List Parameter} {f : Spelling}

theorem Agree.alike {α : Type} {g : Element → Staging α} {e e' : Element}
    (hg : ∀ K e, Agree K ps Eq (g (e.respell f)) (g e)) (h : Element.Alike f e e') :
    Agree K ps Eq (g e) (g e') :=
  .across hg h

section Attributes

variable (hf : f.Faithful ps) (e : Element) (name : String)

theorem exec_resolve (token : String) (sources : Sources) (map : RoadMap) (s : Stage) :
    ∃ j, exec sources map (resolve token) s =
      (Parameters.meaning s.parameters.declared token, { s with journal := j }) := by
  rw [resolve, exec_bind, exec_get, ← Parameters.resolveOrKeep_fst]
  dsimp only
  rcases s.parameters.resolveOrKeep token with ⟨value, - | fault⟩
  · exact ⟨s.journal, rfl⟩
  · exact ⟨_, rfl⟩

theorem resolve_agrees {token token' : String} (h : Parameters.meaning ps token = Parameters.meaning ps token') :
    Agree K ps Eq (resolve token) (resolve token') := by
  intro sources map s t hst
  obtain ⟨j, hs⟩ := exec_resolve token sources map s
  obtain ⟨j', ht⟩ := exec_resolve token' sources map t
  unfold AgreeFrom
  rw [hs, ht]
  refine ⟨?_, (hst.journal_left j).journal_right j'⟩
  dsimp only
  rw [hst.parameters, hst.declared, h]

include hf

theorem attr?_agrees : Agree K ps Eq (attr? (e.respell f) name) (attr? e name) := by
  unfold attr?
  rw [Element.attr?_respell]
  cases e.attr? name with
  | none => exact .pure rfl
  | some raw => exact .map (resolve_agrees (hf _ _ _))

theorem attrOr_agrees (standard : String) :
    Agree K ps Eq (attrOr (e.respell f) name standard) (attrOr e name standard) :=
  .bind (attr?_agrees hf e name) fun _ => .pure rfl

theorem attr_agrees : Agree K ps Eq (attr (e.respell f) name) (attr e name) :=
  attrOr_agrees hf e name ""

theorem number_agrees : Agree K ps Eq (number (e.respell f) name) (number e name) :=
  .bind (attr?_agrees hf e name) fun _ => .pure rfl

theorem value_agrees : Agree K ps Eq (value (e.respell f) name) (value e name) :=
  .bind (number_agrees hf e name) fun _ => .pure rfl

theorem isTrue_agrees : Agree K ps Eq (isTrue (e.respell f) name) (isTrue e name) :=
  .bind (attr?_agrees hf e name) fun _ => .pure rfl

variable {e} in
theorem attr_alike {e' : Element} (h : Element.Alike f e e') :
    Agree K ps Eq (attr e name) (attr e' name) := by
  apply Agree.alike _ h
  exact fun _ e => attr_agrees hf e name

variable {e} in
theorem value_alike {e' : Element} (h : Element.Alike f e e') :
    Agree K ps Eq (value e name) (value e' name) := by
  apply Agree.alike _ h
  exact fun _ e => value_agrees hf e name

omit hf in
theorem lookUp_agrees (kind : CatalogKind) : Agree K ps Eq (lookUp kind name) (lookUp kind name) := by
  unfold lookUp
  refine .bind .read fun sources => ?_
  split
  · exact .pure rfl
  · exact .bind (.record _ _) fun _ => .pure rfl

end Attributes

section Positions

variable (hf : f.Faithful ps) (shape : Element)

theorem onMap_agrees (shape' : Element) (found : Option Spot) :
    Agree K ps Eq (onMap shape' found) (onMap shape found) := by
  unfold onMap
  split
  · exact .pure rfl
  · exact .refuse rfl _ _ _ _

include hf

theorem anchor?_agrees : Agree K ps Eq (anchor? (shape.respell f)) (anchor? shape) := by
  unfold anchor?
  refine .bind (attr_agrees hf _ _) fun name => .bind .getCast fun c => ?_
  split
  · exact .pure rfl
  · exact .refuse rfl _ _ _ _

theorem worldSpot_agrees : Agree K ps Eq (worldSpot (shape.respell f)) (worldSpot shape) := by
  unfold worldSpot
  refine .bind (value_agrees hf _ _) fun x => .bind (value_agrees hf _ _) fun y =>
    .bind (value_agrees hf _ _) fun z => .bind (value_agrees hf _ _) fun heading =>
    .get_bind fun s t hst => ?_
  rw [hst.dialect]
  dsimp only
  split
  · exact .bind (.pure rfl) fun _ => .bind (.ask _) fun _ => .pure rfl
  · refine .bind (.ask _) fun found => ?_
    split <;> exact .bind (.pure rfl) fun _ => .bind (.ask _) fun _ => .pure rfl

theorem relativeWorldSpot_agrees :
    Agree K ps Eq (relativeWorldSpot (shape.respell f)) (relativeWorldSpot shape) := by
  unfold relativeWorldSpot
  refine .bind (anchor?_agrees hf _) fun a => ?_
  split
  · exact .pure rfl
  · refine .bind (.ask _) fun p => ?_
    split
    · exact .pure rfl
    · refine .bind (value_agrees hf _ _) fun dz => .bind (value_agrees hf _ _) fun dx =>
        .bind (value_agrees hf _ _) fun dy => .bind (.ask _) fun q => ?_
      split
      · exact .pure rfl
      · exact .bind (.ask _) fun _ => .pure rfl

theorem heading?_agrees : Agree K ps Eq (heading? (shape.respell f)) (heading? shape) := by
  unfold heading?
  rw [Element.child?_respell]
  cases shape.child? "Orientation" with
  | none => exact .pure rfl
  | some o =>
    simp only [Option.map_some, Option.filter_some, Element.attr?_respell, Option.isSome_map]
    split
    · exact .map (value_agrees hf _ _)
    · exact .pure rfl

theorem laneSpot_agrees : Agree K ps Eq (laneSpot (shape.respell f)) (laneSpot shape) := by
  unfold laneSpot
  exact .bind (value_agrees hf _ _) fun road => .bind (value_agrees hf _ _) fun lane =>
    .bind (value_agrees hf _ _) fun s => .bind (value_agrees hf _ _) fun offset =>
    .bind (heading?_agrees hf _) fun heading => .bind (.ask _) fun _ => .pure rfl

theorem relativeLaneSpot_agrees (a : Pose) :
    Agree K ps Eq (relativeLaneSpot (shape.respell f) a) (relativeLaneSpot shape a) := by
  unfold relativeLaneSpot
  refine .bind (value_agrees hf _ _) fun shift => .bind (.summed _) fun lane => .bind (value_agrees hf _ _) fun s => ?_
  rw [Element.attr?_respell, Option.isSome_map]
  dsimp only
  split
  · exact .bind (value_agrees hf _ _) fun _ => .bind (.pure rfl) fun _ => .bind (.ask _) fun _ => .pure rfl
  · exact .bind (.pure rfl) fun _ => .bind (.ask _) fun _ => .pure rfl

theorem roadSpot_agrees : Agree K ps Eq (roadSpot (shape.respell f)) (roadSpot shape) :=
  .bind (value_agrees hf _ _) fun _ => .bind (value_agrees hf _ _) fun _ =>
    .bind (value_agrees hf _ _) fun _ => .bind (.ask _) fun _ => .pure rfl

theorem relativeRoadSpot_agrees (a : Pose) :
    Agree K ps Eq (relativeRoadSpot (shape.respell f) a) (relativeRoadSpot shape a) :=
  .bind (value_agrees hf _ _) fun _ => .bind (value_agrees hf _ _) fun _ =>
    .bind (.ask _) fun _ => .pure rfl

theorem fromAnchor_agrees {g g' : Pose → Staging (Option Spot)} (hg : ∀ a, Agree K ps Eq (g' a) (g a)) :
    Agree K ps Eq (fromAnchor (shape.respell f) g') (fromAnchor shape g) := by
  unfold fromAnchor
  refine .bind (anchor?_agrees hf _) fun a => ?_
  split
  · exact .pure rfl
  · exact .bind (hg _) fun _ => onMap_agrees _ _ _

theorem shapeSpot_agrees : Agree K ps Eq (shapeSpot (shape.respell f)) (shapeSpot shape) := by
  unfold shapeSpot
  rw [Element.name_respell]
  split
  · exact .bind (worldSpot_agrees hf _) fun _ => onMap_agrees _ _ _
  · exact .bind (relativeWorldSpot_agrees hf _) fun _ => onMap_agrees _ _ _
  · exact .bind (laneSpot_agrees hf _) fun _ => onMap_agrees _ _ _
  · exact fromAnchor_agrees hf _ (relativeLaneSpot_agrees hf _)
  · exact .bind (roadSpot_agrees hf _) fun _ => onMap_agrees _ _ _
  · exact fromAnchor_agrees hf _ (relativeRoadSpot_agrees hf _)
  · exact .refuse rfl _ _ _ _

theorem spot?_agrees : Agree K ps Eq (spot? (shape.respell f)) (spot? shape) := by
  unfold spot?
  rw [Element.firstElement?_respell]
  cases shape.firstElement? with
  | none => exact .refuse rfl _ _ _ _
  | some first => exact shapeSpot_agrees hf first

end Positions

section Conditions

variable (hf : f.Faithful ps) (e : Element)

theorem Branch.find?_respell (byValue byEntity : Option Element) :
    Branch.find? (byValue.map (·.respell f)) (byEntity.map (·.respell f)) =
      (Branch.find? byValue byEntity).map fun b => (b.1, b.2.respell f) := by
  have hbranch (b : Branch) :
      ((if b.isByValue then byValue.map (·.respell f) else byEntity.map (·.respell f)).bind
        (·.child? b.elementName)).map (b, ·) =
      (((if b.isByValue then byValue else byEntity).bind (·.child? b.elementName)).map (b, ·)).map
        fun b => (b.1, b.2.respell f) := by
    split <;> simp [Option.bind_map, Option.map_bind, Function.comp_def]
  simp only [Branch.find?, hbranch, List.map_findSome?, Function.comp_def]

theorem Branch.ofCondition?_respell :
    Branch.ofCondition? (e.respell f) = (Branch.ofCondition? e).map fun b => (b.1, b.2.respell f) := by
  unfold Branch.ofCondition?
  rw [Element.child?_respell, Element.descend?_respell]
  exact Branch.find?_respell _ _

theorem entityTag_agrees (name : String) : Agree K ps Eq (entityTag name) (entityTag name) := by
  unfold entityTag
  refine .bind .getCast fun c => ?_
  split
  · exact .pure rfl
  · exact .bind (.warn _ _ _ _) fun _ => .pure rfl

theorem pointAhead_agrees (name : String) (spot : Spot) (distance : Float) :
    Agree K ps Eq (pointAhead name spot distance) (pointAhead name spot distance) := by
  unfold pointAhead
  refine .bind (.ask _) fun p => ?_
  split
  · exact .pure rfl
  · exact .bind (.warn _ _ _ _) fun _ => .pure rfl

include hf

theorem comparison_agrees : Agree K ps Eq (comparison (e.respell f)) (comparison e) := by
  unfold comparison
  refine .bind (attr_agrees hf _ _) fun raw => ?_
  split
  · exact .pure rfl
  · exact .bind (.warn _ _ _ _) fun _ => .pure rfl

theorem entityName?_agrees (e : Option Element) :
    Agree K ps Eq (entityName? (e.map (·.respell f))) (entityName? e) := by
  cases e with
  | none => exact .pure rfl
  | some e => exact .map (attr_agrees hf _ _)

theorem distanceMode_agrees (name straight : String) :
    Agree K ps Eq (distanceMode (e.respell f) name straight) (distanceMode e name straight) :=
  .bind (attr?_agrees hf _ _) fun _ => .pure rfl

theorem timeTest_agrees : Agree K ps Eq (timeTest (e.respell f)) (timeTest e) :=
  .bind (comparison_agrees hf _) fun _ => .bind (number_agrees hf _ _) fun _ => .pure rfl

theorem laneAttachTest_agrees (name : String) :
    Agree K ps Eq (laneAttachTest name (e.respell f)).run (laneAttachTest name e).run := by
  unfold laneAttachTest
  refine .run_bind (.run_lift (attr_agrees hf _ _)) fun text => ?_
  split
  · exact .run_bind (.run_lift (attr_agrees hf _ _)) fun _ =>
      .run_bind (.run_lift (comparison_agrees hf _)) fun _ => .run_pure _
  · exact .run_throw _

theorem elementStateTest_agrees : Agree K ps Eq (elementStateTest (e.respell f)) (elementStateTest e) :=
  .bind (attr_agrees hf _ _) fun _ => .bind (attr_agrees hf _ _) fun _ => .bind (attr_agrees hf _ _) fun _ =>
    .pure rfl

theorem timeToCollisionTest_agrees (name source : String) :
    Agree K ps Eq (timeToCollisionTest name source (e.respell f)).run (timeToCollisionTest name source e).run := by
  unfold timeToCollisionTest
  rw [Element.descend?_respell]
  refine .run_bind (.run_lift (entityName?_agrees hf _)) fun target => ?_
  split
  · exact .run_throw _
  · exact .run_bind (.run_lift (distanceMode_agrees hf _ _ _)) fun _ =>
      .run_bind (.run_lift (entityTag_agrees _)) fun _ => .run_bind (.run_lift (entityTag_agrees _)) fun _ =>
      .run_bind (.run_lift (comparison_agrees hf _)) fun _ =>
      .run_bind (.run_lift (number_agrees hf _ _)) fun _ => .run_pure _

theorem relativeDistanceTest_agrees (source : String) :
    Agree K ps Eq (relativeDistanceTest source (e.respell f)) (relativeDistanceTest source e) :=
  .bind (attr_agrees hf _ _) fun _ => .bind (distanceMode_agrees hf _ _ _) fun _ =>
    .bind (entityTag_agrees _) fun _ => .bind (entityTag_agrees _) fun _ => .bind (comparison_agrees hf _) fun _ =>
    .bind (number_agrees hf _ _) fun _ => .pure rfl

theorem distanceTest_agrees (name source : String) :
    Agree K ps Eq (distanceTest name source (e.respell f)).run (distanceTest name source e).run := by
  unfold distanceTest
  rw [Element.child?_respell]
  refine .run_bind (.run_lift (number_agrees hf _ _)) fun distance => ?_
  extract_lets jump
  have hjump (spot : Option Spot) : Agree K ps Eq (jump spot).run (jump spot).run := by
    cases spot with
    | none => exact .run_throw _
    | some spot =>
      exact .run_bind (.run_lift (pointAhead_agrees _ _ _)) fun _ =>
        .run_bind (.run_lift (entityTag_agrees _)) fun _ => .run_bind (.run_lift .read) fun _ => .run_pure _
  cases e.child? "Position" with
  | none => exact .run_bind (.run_pure _) hjump
  | some position => exact .run_bind (.run_lift (spot?_agrees hf _)) hjump

theorem worldGoal_agrees (tolerance : Float) :
    Agree K ps Eq (worldGoal (e.respell f) tolerance) (worldGoal e tolerance) :=
  .bind (value_agrees hf _ _) fun _ => .bind (value_agrees hf _ _) fun _ => .bind (value_agrees hf _ _) fun _ =>
    .pure rfl

theorem laneGoal_agrees (tolerance : Float) :
    Agree K ps Eq (laneGoal (e.respell f) tolerance) (laneGoal e tolerance) :=
  .bind (attr_agrees hf _ _) fun _ => .bind (attr_agrees hf _ _) fun _ => .bind (value_agrees hf _ _) fun _ =>
    .bind (value_agrees hf _ _) fun _ => .pure rfl

theorem goal?_agrees (tolerance : Float) : Agree K ps Eq (goal? (e.respell f) tolerance) (goal? e tolerance) := by
  unfold goal?
  rw [Element.descend?_respell, Element.descend?_respell]
  cases e.descend? ["Position", "WorldPosition"] with
  | some world => exact .map (worldGoal_agrees hf _ _)
  | none =>
    cases e.descend? ["Position", "LanePosition"] with
    | some lane => exact .map (laneGoal_agrees hf _ _)
    | none => exact .pure rfl

theorem reachTest_agrees (name source : String) :
    Agree K ps Eq (reachTest name source (e.respell f)).run (reachTest name source e).run := by
  unfold reachTest
  refine .run_bind (.run_lift (value_agrees hf _ _)) fun tolerance =>
    .run_bind (.run_lift (goal?_agrees hf _ _)) fun goal => ?_
  cases goal with
  | none => exact .run_throw _
  | some goal => exact .run_bind (.run_lift (entityTag_agrees _)) fun _ => .run_pure _

theorem speedTest_agrees (actor : String) (target : Option String) (frame : SpeedFrame) :
    Agree K ps Eq (speedTest actor target frame (e.respell f)) (speedTest actor target frame e) :=
  .bind (comparison_agrees hf _) fun _ => .bind (number_agrees hf _ _) fun _ => .pure rfl

theorem headwayTest_agrees (source : String) :
    Agree K ps Eq (headwayTest source (e.respell f)) (headwayTest source e) :=
  .bind (attr_agrees hf _ _) fun _ => .bind (entityTag_agrees _) fun _ => .bind (entityTag_agrees _) fun _ =>
    .bind (comparison_agrees hf _) fun _ => .bind (number_agrees hf _ _) fun _ => .pure rfl

theorem test_agrees (actor name : String) (source : Option String) (branch : Branch) :
    Agree K ps Eq (test actor name source (e.respell f) branch).run (test actor name source e branch).run := by
  cases branch with
  | time => exact .run_lift (timeTest_agrees hf _)
  | parameter => exact laneAttachTest_agrees hf _ _
  | elementState => exact .run_lift (elementStateTest_agrees hf _)
  | timeToCollision => exact timeToCollisionTest_agrees hf _ _ _
  | relativeDistance => exact .run_lift (relativeDistanceTest_agrees hf _ _)
  | distance => exact distanceTest_agrees hf _ _ _
  | reach => exact reachTest_agrees hf _ _ _
  | speed => exact .run_lift (speedTest_agrees hf _ _ _ _)
  | relativeSpeed => exact .run_lift (speedTest_agrees hf _ _ _ _)
  | headway => exact .run_lift (headwayTest_agrees hf _ _)

theorem condition_agrees (actor : String) :
    Agree K ps Eq (condition actor (e.respell f)).run (condition actor e).run := by
  unfold condition
  rw [Branch.ofCondition?_respell]
  refine .run_bind (.run_lift (attr_agrees hf _ _)) fun name => ?_
  cases Branch.ofCondition? e with
  | none => exact .run_throw _
  | some found =>
    obtain ⟨branch, node⟩ := found
    rw [Element.descend?_respell]
    exact .run_bind (.run_lift (entityName?_agrees hf _)) fun _ => .run_bind (test_agrees hf _ _ _ _ _) fun _ =>
      .run_bind (.run_lift (value_agrees hf _ _)) fun _ => .run_bind (.run_lift (attr?_agrees hf _ _)) fun _ =>
      .run_pure _

theorem trigger_agrees (actor : String) :
    Agree K ps Eq (trigger actor (e.respell f)).run (trigger actor e).run := by
  unfold trigger
  have hmap : ((e.respell f).childrenNamed "ConditionGroup").flatMap (·.childrenNamed "Condition") =
      ((e.childrenNamed "ConditionGroup").flatMap (·.childrenNamed "Condition")).map (·.respell f) := by
    simp [List.flatMap_map, List.map_flatMap]
  rw [hmap, List.mapM_map]
  exact .run_listMapM fun e => condition_agrees hf e actor

end Conditions

section Plans

variable (hf : f.Faithful ps) (e : Element)

include hf

theorem catalogued?_agrees (find : Catalog → String → Option Element) :
    Agree K ps Eq (catalogued? (e.respell f) find) (catalogued? e find) := by
  unfold catalogued?
  rw [Element.child?_respell]
  cases e.child? "CatalogReference" with
  | none => exact .pure rfl
  | some reference =>
    refine .bind (attr_agrees hf _ _) fun name => .bind .read fun sources => ?_
    split
    · exact .pure rfl
    · exact .bind (.record _ _) fun _ => .pure rfl

theorem spots_agrees (holders : List Element) :
    Agree K ps Eq (spots (holders.map (·.respell f))) (spots holders) := by
  have hmap : (holders.map (·.respell f)).filterMap (·.child? "Position") =
      (holders.filterMap (·.child? "Position")).map (·.respell f) := by
    simp [List.filterMap_map, List.map_filterMap]
  rw [spots, spots, hmap, filterMap_map]
  exact .filterMap fun e => spot?_agrees hf e

theorem spots_agrees_self (holders : List Element) : Agree K ps Eq (spots holders) (spots holders) :=
  .self fun _ => spots_agrees hf holders

theorem assignedPlan_agrees : Agree K ps Eq (assignedPlan (e.respell f)) (assignedPlan e) := by
  unfold assignedPlan
  rw [Element.child?_respell]
  cases e.child? "Route" with
  | some route =>
    refine .map (.bind ?_ fun _ => .pure rfl)
    rw [Element.childrenNamed_respell]
    exact spots_agrees hf _
  | none =>
    refine .bind (catalogued?_agrees hf _ _) fun route => .optionMapM fun route => ?_
    exact .bind (spots_agrees_self hf _) fun _ => .pure rfl

theorem trajectory?_agrees :
    Agree K ps (fun o o' => o = o' ∨ o = o'.map (·.respell f)) (trajectory? (e.respell f)) (trajectory? e) := by
  unfold trajectory?
  have hown : ((e.respell f).child? "Trajectory").or ((e.respell f).descend? ["TrajectoryRef", "Trajectory"]) =
      ((e.child? "Trajectory").or (e.descend? ["TrajectoryRef", "Trajectory"])).map (·.respell f) := by
    rw [Element.child?_respell, Element.descend?_respell, Option.map_or]
  have hholder : ((e.respell f).child? "TrajectoryRef").getD (e.respell f) =
      ((e.child? "TrajectoryRef").getD e).respell f := by
    rw [Element.child?_respell]
    cases e.child? "TrajectoryRef" <;> rfl
  rw [hown, hholder]
  cases (e.child? "Trajectory").or (e.descend? ["TrajectoryRef", "Trajectory"]) with
  | some trajectory => exact .pure (.inr rfl)
  | none => exact (catalogued?_agrees hf _ _).imp fun _ _ h => .inl h

omit hf in
theorem vertices_respell : vertices (e.respell f) = (vertices e).map (·.respell f) := by
  unfold vertices
  rw [Element.descend?_respell]
  cases e.descend? ["Shape", "Polyline"] <;> simp

theorem trajectoryPlan_agrees : Agree K ps Eq (trajectoryPlan (e.respell f)) (trajectoryPlan e) := by
  unfold trajectoryPlan
  refine .bind_of (trajectory?_agrees hf e) fun o o' h => ?_
  rcases h with rfl | rfl
  · exact .optionMapM fun t => .bind (spots_agrees_self hf _) fun _ => .pure rfl
  · refine .optionMapM_map fun t => .bind ?_ fun _ => .pure rfl
    rw [vertices_respell]
    exact spots_agrees hf _

theorem acquiredPlan_agrees (owner : String) :
    Agree K ps Eq (acquiredPlan owner (e.respell f)) (acquiredPlan owner e) := by
  unfold acquiredPlan
  rw [Element.child?_respell]
  refine .bind .getCast fun c => ?_
  cases e.child? "Position" with
  | some position => exact .bind (spot?_agrees hf _) fun _ => .pure rfl
  | none => exact .bind (.pure rfl) fun _ => .pure rfl

theorem routePlan_agrees (owner : String) :
    Agree K ps Eq (routePlan owner (e.respell f)) (routePlan owner e) := by
  unfold routePlan
  simp only [Element.child?_respell]
  cases e.child? "AssignRouteAction" with
  | some action => exact assignedPlan_agrees hf _
  | none =>
    cases e.child? "FollowTrajectoryAction" with
    | some action => exact trajectoryPlan_agrees hf _
    | none =>
      cases e.child? "AcquirePositionAction" with
      | some action => exact .bind (acquiredPlan_agrees hf _ _) fun _ => .pure rfl
      | none => exact .refuse rfl _ _ _ _

end Plans

end Scenography.Staging
