import Scenography.Proofs.Finite.Readers

namespace Scenography

open Markup (Element)
open Measured (quantities)

def Action.Steady (a : Action) : Prop :=
  ∀ target, a.ending = .speed target → AllFinite target

structure Request.Steady (r : Request) : Prop where
  action : r.action.Steady
  merge : ∀ target offset duration, r.feed = some (.merge target offset duration) →
    AllFinite (Feed.mergeOf target offset duration)
  plan : AllFinite r.plan

theorem Request.Steady.gated {r : Request} (h : r.Steady) (behavior : Behavior) : (r.gated behavior).Steady := by
  unfold Request.gated
  split
  · exact h
  · exact ⟨h.action, nofun, h.plan⟩

theorem allFinite_mergeOf (target : Int64) {offset : Option Float} {duration : Float} (hoffset : AllFinite offset)
    (hduration : AllFinite duration) : AllFinite (Feed.mergeOf target offset duration) := by
  have hmerge (m : Merge) : AllFinite m ↔ AllFinite [m.duration, m.offset] := Iff.rfl
  rw [hmerge, allFinite_doubles]
  rw [allFinite_double] at hduration
  cases offset with
  | none => simpa [Feed.mergeOf, hduration] using by decide
  | some x =>
    have hx := Number.isFinite_abs (allFinite_double.1 (allFinite_option.1 hoffset x rfl))
    simp [Feed.mergeOf, hduration, hx]

namespace Staging

section Conditions

variable (actor name source : String) (e : Element)

theorem allFinite_conditionOf {name : String} {delay : Float} {edge : Edge} {count : Nat} {test : Test} :
    AllFinite (⟨name, delay, edge, count, test⟩ : Condition) ↔ AllFinite delay ∧ AllFinite test := by
  have hcondition : AllFinite (⟨name, delay, edge, count, test⟩ : Condition) ↔ AllFinite (delay, count, test) := Iff.rfl
  rw [hcondition, allFinite_pair, allFinite_pair]
  simp

theorem timeTest_finite : Gives AllFinite (timeTest e) :=
  .bind fun _ => .bind fun _ => .pure nofun

theorem laneAttachTest_yields : Yields (IfOk AllFinite) (laneAttachTest name e).run := by
  unfold laneAttachTest
  refine .run_bind (.run_lift (attr_reads _ _)) fun value => ?_
  split
  · exact .run_bind (.run_lift (attr_reads _ _)) fun _ => .run_bind (.run_lift (comparison_reads _)) fun _ => .run_pure nofun
  · exact .run_throw _

theorem elementStateTest_finite : Gives AllFinite (elementStateTest e) :=
  .bind fun _ => .bind fun _ => .bind fun _ => .pure nofun

theorem timeToCollisionTest_yields : Yields (IfOk AllFinite) (timeToCollisionTest name source e).run := by
  unfold timeToCollisionTest
  refine .run_bind (.run_lift (entityName?_reads _)) fun target => ?_
  split
  · exact .run_throw _
  · refine .run_bind (.run_lift (distanceMode_reads _ _ _)) fun _ => .run_bind (.run_lift (entityTag_reads _)) fun _ => ?_
    refine .run_bind (.run_lift (entityTag_reads _)) fun _ => .run_bind (.run_lift (comparison_reads _)) fun _ => ?_
    exact .run_bind (.run_lift (number_reads _ _)) fun _ => .run_pure nofun

theorem relativeDistanceTest_finite : Gives AllFinite (relativeDistanceTest source e) :=
  .bind fun _ => .bind fun _ => .bind fun _ => .bind fun _ => .bind fun _ => .bind fun _ => .pure nofun

theorem pointAhead_yields {spot : Spot} (h : AllFinite spot) (distance : Float) :
    Yields AllFinite (pointAhead name spot distance) := by
  have hspot := (allFinite_spot.1 h).1
  have hahead (lane : Int64) : Yields AllFinite (ask (.ahead spot.lon spot.lat lane distance)) :=
    .of_reads (.ask _) fun _ _ _ _ hmap _ => allFinite_option.2 fun p hp => hmap.ahead _ _ _ _ p hp
  unfold pointAhead
  refine .bind_of (hahead _) fun found hfound => ?_
  split
  next p =>
    have hp := allFinite_point.1 (allFinite_option.1 hfound p rfl)
    exact .pure (allFinite_point.2 (by simp_all [allFinite_list]))
  next => exact .bind (.warn _ _) fun _ => .pure (allFinite_point.2 (by simp_all [allFinite_list]))

theorem allFinite_pointTest {source : String} {point : GeoPoint} {distance : Authored} {radius : Float} :
    AllFinite (Test.point source point distance radius) ↔ AllFinite point ∧ AllFinite radius := by
  have htest : AllFinite (Test.point source point distance radius) ↔ AllFinite (point, radius) := Iff.rfl
  rw [htest, allFinite_pair]

theorem distanceTest_yields : Yields (IfOk AllFinite) (distanceTest name source e).run := by
  unfold distanceTest
  refine .run_bind (.run_lift (number_reads _ _)) fun distance => ?_
  dsimp only
  split
  case' h_1 => refine .run_bind_of (.run_lift (spot?_yields _)) fun found hfound => ?_
  case' h_2 => refine .run_bind_of (P := AllFinite) (.run_pure (allFinite_option.2 nofun)) fun found hfound => ?_
  all_goals
    split
    · exact .run_throw _
    next spot =>
      refine .run_bind_of (.run_lift (pointAhead_yields name (allFinite_option.1 hfound spot rfl) _)) fun point hpoint => ?_
      refine .run_bind (.run_lift (entityTag_reads _)) fun _ => .run_bind_of .run_read fun sources hsources => ?_
      exact .run_pure (allFinite_pointTest.2 ⟨hpoint, hsources.numbers.2.2⟩)

theorem worldGoal_yields {tolerance : Float} (h : AllFinite tolerance) : Yields AllFinite (worldGoal e tolerance) := by
  unfold worldGoal
  refine .bind_of (value_yields _ _) fun x hx => .bind_of (value_yields _ _) fun y hy => ?_
  refine .bind_of (value_yields _ _) fun z hz => .pure ?_
  have hgoal : AllFinite (Goal.world ⟨x, y, z⟩ tolerance) ↔ AllFinite ((⟨x, y, z⟩ : GeoPoint), tolerance) := Iff.rfl
  rw [hgoal, allFinite_pair, allFinite_point]
  simp_all [allFinite_list]

theorem laneGoal_yields {tolerance : Float} (h : AllFinite tolerance) : Yields AllFinite (laneGoal e tolerance) := by
  unfold laneGoal
  refine .bind (attr_reads _ _) fun road => .bind (attr_reads _ _) fun lane => ?_
  refine .bind_of (value_yields _ _) fun s hs => .bind_of (value_yields _ _) fun offset hoffset => .pure ?_
  have hgoal : AllFinite (Goal.lane road lane s offset tolerance) ↔ AllFinite [s, offset, tolerance] := Iff.rfl
  rw [hgoal]
  simp_all [allFinite_list]

theorem goal?_yields {tolerance : Float} (h : AllFinite tolerance) : Yields AllFinite (goal? e tolerance) := by
  have hsome (goal : Goal) (hgoal : AllFinite goal) : AllFinite (some goal) :=
    allFinite_option.2 fun _ h => Option.some.inj h ▸ hgoal
  unfold goal?
  split
  · exact .map_of (worldGoal_yields _ h) hsome
  · exact .map_of (laneGoal_yields _ h) hsome
  · exact .pure (allFinite_option.2 nofun)

theorem reachTest_yields : Yields (IfOk AllFinite) (reachTest name source e).run := by
  unfold reachTest
  refine .run_bind_of (.run_lift (value_yields _ _)) fun tolerance htolerance => ?_
  refine .run_bind_of (.run_lift (goal?_yields _ htolerance)) fun goal hgoal => ?_
  split
  · exact .run_throw _
  next goal =>
    refine .run_bind (.run_lift (entityTag_reads _)) fun tag => .run_pure ?_
    have htest : AllFinite (Test.reach tag goal) ↔ AllFinite goal := Iff.rfl
    exact htest.2 (allFinite_option.1 hgoal goal rfl)

theorem speedTest_finite (target : Option String) (frame : SpeedFrame) :
    Gives AllFinite (speedTest actor target frame e) :=
  .bind fun _ => .bind fun _ => .pure nofun

theorem headwayTest_finite : Gives AllFinite (headwayTest source e) :=
  .bind fun _ => .bind fun _ => .bind fun _ => .bind fun _ => .bind fun _ => .pure nofun

theorem test_yields (source? : Option String) (b : Branch) :
    Yields (IfOk AllFinite) (test actor name source? e b).run := by
  cases b with
  | time => exact .run_lift (.of_gives (timeTest_reads e) (timeTest_finite e))
  | parameter => exact laneAttachTest_yields name e
  | elementState => exact .run_lift (.of_gives (elementStateTest_reads e) (elementStateTest_finite e))
  | timeToCollision => exact timeToCollisionTest_yields name _ e
  | relativeDistance => exact .run_lift (.of_gives (relativeDistanceTest_reads _ e) (relativeDistanceTest_finite _ e))
  | distance => exact distanceTest_yields name _ e
  | reach => exact reachTest_yields name _ e
  | speed => exact .run_lift (.of_gives (speedTest_reads _ e _ _) (speedTest_finite _ e _ _))
  | relativeSpeed => exact .run_lift (.of_gives (speedTest_reads _ e _ _) (speedTest_finite _ e _ _))
  | headway => exact .run_lift (.of_gives (headwayTest_reads _ e) (headwayTest_finite _ e))

theorem condition_yields : Yields (IfOk AllFinite) (condition actor e).run := by
  unfold condition
  refine .run_bind (.run_lift (attr_reads _ _)) fun name => ?_
  split
  · exact .run_throw _
  · refine .run_bind (.run_lift (entityName?_reads _)) fun source => ?_
    refine .run_bind_of (test_yields _ _ _ _ _) fun test htest => ?_
    refine .run_bind_of (.run_lift (value_yields _ _)) fun delay hdelay => ?_
    exact .run_bind (.run_lift (attr?_reads _ _)) fun _ => .run_pure (allFinite_conditionOf.2 ⟨hdelay, htest⟩)

theorem startConditions_yields : Yields (IfOk AllFinite) (startConditions actor e).run := by
  unfold startConditions
  split
  · refine (Yields.run_listMapM fun c => condition_yields actor c).imp fun r hr l hl => ?_
    exact allFinite_list.2 (hr l hl)
  · exact .run_pure (allFinite_list.2 (by simp))

theorem withCount_finite (overrides : KeyMap String String) (key : String) {c : Condition} (h : AllFinite c) :
    Gives AllFinite (withCount overrides key c) := by
  unfold withCount
  split
  · exact .pure h
  · split
    · exact .pure (allFinite_conditionOf.2 (allFinite_conditionOf.1 h))
    · exact .bind fun _ => .pure h

theorem withCounts_yields (overrides : KeyMap String String) (event : String) {conditions : List Condition}
    (h : AllFinite conditions) : Yields AllFinite (withCounts overrides actor event conditions) := by
  unfold withCounts
  refine .bind .getCast fun c => (Yields.listMapM (Q := AllFinite) fun p hp => ?_).imp fun _ => allFinite_list.2
  obtain ⟨condition, index⟩ := p
  have hcondition := allFinite_list.1 h condition (List.fst_mem_of_mem_zipIdx hp)
  exact .of_gives (withCount_reads _ _ _) (withCount_finite _ _ hcondition)

end Conditions

section Requests

variable (name shape : String) (rate : Authored) (e : Element)

theorem rampTo_steady (target : Authored) : (rampTo name rate target).Steady := by
  unfold rampTo
  split
  · exact ⟨nofun, nofun, allFinite_option.2 nofun⟩
  · refine ⟨fun _ h => ?_, nofun, allFinite_option.2 nofun⟩
    exact Ending.speed.inj h ▸ allFinite_double.2 target.isFinite_value

theorem absoluteSpeed_steady : Gives (fun o => ∀ r ∈ o, r.Steady) (absoluteSpeed name shape rate e) := by
  unfold absoluteSpeed
  refine .bind fun target => ?_
  split
  · exact .pure fun r hr => Option.some.inj hr ▸ rampTo_steady name rate target
  · exact .pure fun r hr => Option.some.inj hr ▸ rampTo_steady name rate target
  · exact .pure fun r hr => Option.some.inj hr ▸ ⟨nofun, nofun, allFinite_option.2 nofun⟩
  · exact .refuse (by simp)

theorem relativeSpeed_steady : Gives (fun o => ∀ r ∈ o, r.Steady) (relativeSpeed name shape rate e) := by
  unfold relativeSpeed
  split
  · exact .refuse (by simp)
  · refine .bind fun delta => ?_
    split
    · exact .refuse (by simp)
    · exact .pure fun r hr => Option.some.inj hr ▸ ⟨nofun, nofun, allFinite_option.2 nofun⟩

theorem speedAction_steady : Gives (fun o => ∀ r ∈ o, r.Steady) (speedAction name e) := by
  unfold speedAction
  refine .bind fun shape => .bind fun rate => ?_
  split
  · exact absoluteSpeed_steady name _ _ _
  · exact relativeSpeed_steady name _ _ _
  · exact .refuse (by simp)

theorem laneChange_steady : Gives Request.Steady (laneChange name e) := by
  unfold laneChange
  refine .bind fun target => .bind fun duration => .bind fun authored => .bind fun s => .pure ⟨nofun, ?_, allFinite_option.2 nofun⟩
  intro _ _ _ hfeed
  obtain ⟨rfl, rfl, rfl⟩ := Feed.merge.inj (Option.some.inj hfeed)
  refine allFinite_mergeOf _ (allFinite_option.2 fun x hx => ?_) (allFinite_double.2 (Authored.isFinite_value _))
  obtain ⟨_, -, rfl⟩ := Option.map_eq_some_iff.1 hx
  exact allFinite_double.2 (Authored.isFinite_value _)

theorem keepDistance_steady : Gives Request.Steady (keepDistance name e) :=
  .bind fun _ => .bind fun _ => .bind fun _ => .bind fun _ => .pure ⟨nofun, nofun, allFinite_option.2 nofun⟩

theorem activation_steady : Gives (fun o => ∀ r ∈ o, r.Steady) (activation name e) := by
  unfold activation
  refine .bind fun lateral => .bind fun longitudinal => ?_
  split
  · exact .refuse (by simp)
  · exact .pure fun r hr => Option.some.inj hr ▸ ⟨nofun, nofun, allFinite_option.2 nofun⟩

theorem overriding_steady : Gives Request.Steady (overriding name e) :=
  .bind fun _ => .bind fun _ => .bind fun _ => .bind fun _ => .bind fun _ => .bind fun _ =>
    .pure ⟨nofun, nofun, allFinite_option.2 nofun⟩

theorem controllerAction_steady : Gives (fun o => ∀ r ∈ o, r.Steady) (controllerAction name e) := by
  unfold controllerAction
  refine .bind fun controller => ?_
  dsimp only
  split
  · refine .bind fun switches => .pure fun r hr => ?_
    exact Option.some.inj hr ▸ ⟨nofun, nofun, allFinite_option.2 nofun⟩
  · split
    · exact .bind_of (overriding_steady name _) fun r hr => .pure fun q hq => Option.some.inj hq ▸ hr
    · exact .refuse (by simp)

theorem routing_yields (owner : String) : Yields (fun o => ∀ r ∈ o, Request.Steady r) (routing owner name e) := by
  refine .bind_of (routePlan_yields e owner) fun plan hplan => .pure fun r hr => ?_
  obtain ⟨p, rfl, rfl⟩ := Option.map_eq_some_iff.1 hr
  exact ⟨nofun, nofun, hplan⟩

theorem privateAction_yields (owner : String) :
    Yields (fun o => ∀ r ∈ o, Request.Steady r) (privateAction owner name e) := by
  have hsome {m : Staging Request} (hreads : Reads m) (hm : Gives Request.Steady m) :
      Yields (fun o => ∀ r ∈ o, Request.Steady r) (some <$> m) :=
    .map_of (.of_gives hreads hm) fun r hr q hq => Option.some.inj hq ▸ hr
  unfold privateAction
  split
  · exact .of_gives (speedAction_reads _ _) (speedAction_steady name _)
  · exact hsome (laneChange_reads _ _) (laneChange_steady name _)
  · exact hsome (keepDistance_reads _ _) (keepDistance_steady name _)
  · exact .of_gives (activation_reads _ _) (activation_steady name _)
  · exact .of_gives (controllerAction_reads _ _) (controllerAction_steady name _)
  · exact routing_yields name _ owner
  · exact .refuse (by simp)

theorem customCommand_yields : Yields (IfOk Request.Steady) (customCommand name e).run := by
  unfold customCommand
  refine .run_bind (.run_lift (attr_reads _ _)) fun type => ?_
  split
  · exact .run_throw _
  · refine .run_bind (.run_lift (resolve_reads _)) fun text => ?_
    split
    · exact .run_throw _
    · exact .run_pure ⟨nofun, nofun, allFinite_option.2 nofun⟩

theorem request?_yields (owner : String) (behavior : Behavior) :
    Yields (IfOk fun o => ∀ r ∈ o, Request.Steady r) (request? owner behavior e).run := by
  unfold request?
  refine .run_bind (.run_lift (attr_reads _ _)) fun name => ?_
  split
  · exact .run_bind_of (customCommand_yields name _) fun r hr => .run_pure fun q hq => Option.some.inj hq ▸ hr
  · refine .run_bind_of (.run_lift (privateAction_yields name _ owner)) fun o ho => .run_pure fun r hr => ?_
    obtain ⟨q, hq, rfl⟩ := Option.map_eq_some_iff.1 hr
    exact (ho q hq).gated behavior
  · exact .run_lift (.refuse (by simp))

end Requests

end Staging

end Scenography
