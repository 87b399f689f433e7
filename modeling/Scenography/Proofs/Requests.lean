import Scenography.Proofs.Readers

namespace Scenography

def Ending.stop : Ending → StopKind × Float
  | .none => (.time, 3.0)
  | .time seconds => (.time, seconds)
  | .speed target => (.speed, target)

def Action.ramp? (a : Action) : Option Ramp :=
  match a.effect with
  | .ramp rate => some ⟨rate.value, a.ending.stop.1, a.ending.stop.2⟩
  | _ => none

def Action.speed? (a : Action) : Option Speed :=
  match a.effect with
  | .step value => some ⟨value.value⟩
  | _ => none

namespace Feed

def ramp? : Feed → Option Ramp
  | .ramp rate stopKind stopValue => some (rampOf rate stopKind stopValue)
  | _ => none

def speed? : Feed → Option Speed
  | .speed target => some ⟨target⟩
  | _ => none

end Feed

def Request.FeedsLanes (dialect : Dialect) (r : Request) : Prop :=
  ∀ direction target duration shown, r.action.effect = .laneChange direction target duration shown →
    ∀ feed, r.feed = some feed → ∃ authored : Option String,
      direction = .of dialect target.value (Authored.mk (authored.getD "")).value ∧
        feed = .merge (Number.toInt64 target.value) (authored.map fun o => (Authored.mk o).value) duration.value

structure Request.FeedsAction (dialect : Dialect) (r : Request) : Prop where
  ramp : r.feed.bind Feed.ramp? = r.action.ramp?
  speed : r.feed.bind Feed.speed? = r.action.speed?
  lanes : r.FeedsLanes dialect

structure Request.FeedsGated (dialect : Dialect) (behavior : Behavior) (r : Request) : Prop where
  ramp : r.feed.bind Feed.ramp? = if behavior.feedsTimelines then r.action.ramp? else none
  speed : r.feed.bind Feed.speed? = if behavior.feedsTimelines then r.action.speed? else none
  lanes : r.FeedsLanes dialect

structure Request.PlansAction (r : Request) : Prop where
  planned : ∀ plan, r.plan = some plan →
    r.action.effect = .reroute none plan.kind ∧ plan.kind ≠ .approach ∧ r.feed = none
  unplanned : r.plan = none → ∀ route kind, r.action.effect ≠ .reroute route kind

structure Request.FitsAction (dialect : Dialect) (r : Request) : Prop where
  feeds : r.FeedsAction dialect
  plans : r.PlansAction

structure Request.FitsGated (dialect : Dialect) (behavior : Behavior) (r : Request) : Prop where
  feeds : r.FeedsGated dialect behavior
  gate : ∀ feed, r.feed = some feed → behavior.feedsTimelines = true
  plans : r.PlansAction

theorem Request.FitsAction.gated {dialect : Dialect} {r : Request} (h : r.FitsAction dialect)
    (behavior : Behavior) : (r.gated behavior).FitsGated dialect behavior := by
  obtain ⟨⟨hramp, hspeed, hlanes⟩, hplans⟩ := h
  unfold Request.gated
  split
  next hb => exact ⟨⟨by simpa [hb] using hramp, by simpa [hb] using hspeed, hlanes⟩, fun _ _ => hb, hplans⟩
  next hb =>
    refine ⟨⟨by simp [hb], by simp [hb], nofun⟩, nofun, fun plan hplan => ?_, hplans.unplanned⟩
    obtain ⟨heffect, hkind, -⟩ := hplans.planned plan hplan
    exact ⟨heffect, hkind, rfl⟩

namespace Staging

open Markup (Element)

section Readers

variable (name shape : String) (rate : Authored) (e : Element)

@[grind ←] theorem absoluteSpeed_reads : Reads (absoluteSpeed name shape rate e) := by
  unfold absoluteSpeed
  grind

@[grind ←] theorem relativeSpeed_reads : Reads (relativeSpeed name shape rate e) := by
  unfold relativeSpeed
  grind

@[grind ←] theorem speedAction_reads : Reads (speedAction name e) := by
  unfold speedAction
  grind

@[grind ←] theorem laneChange_reads : Reads (laneChange name e) := by
  unfold laneChange
  refine .bind (.optionMapM fun l => number_reads l _) fun target =>
    .bind (.optionMapM fun d => number_reads d _) fun duration => .bind (attr?_reads _ _) fun offset =>
      .get_bind (fun s => .pure _) fun s j => rfl

@[grind ←] theorem number?_reads : Reads (number? e name) := by
  unfold number?
  grind

@[grind ←] theorem motionLimits_reads : Reads (motionLimits e) := by
  unfold motionLimits
  grind

@[grind ←] theorem keepDistance_reads : Reads (keepDistance name e) := by
  unfold keepDistance
  grind

@[grind ←] theorem activation_reads : Reads (activation name e) := by
  unfold activation
  grind

@[grind ←] theorem switches_reads : Reads (switches e) := by
  unfold switches
  grind

@[grind ←] theorem actuator_reads (valueName : String) : Reads (actuator e name valueName) := by
  unfold actuator
  grind

@[grind ←] theorem overriding_reads : Reads (overriding name e) := by
  unfold overriding
  grind

@[grind ←] theorem controllerAction_reads : Reads (controllerAction name e) := by
  unfold controllerAction
  grind

@[grind ←] theorem routing_reads (owner : String) : Reads (routing owner name e) := by
  unfold routing
  grind

@[grind ←] theorem customCommand_reads : Reads (customCommand name e).run := by
  unfold customCommand
  grind

@[grind ←] theorem privateAction_reads (owner : String) : Reads (privateAction owner name e) := by
  unfold privateAction
  grind

@[grind ←] theorem request?_reads (owner : String) (behavior : Behavior) :
    Reads (request? owner behavior e).run := by
  unfold request?
  grind

end Readers

section Feeds

variable {dialect : Dialect} (name shape : String) (rate : Authored) (e : Element)

theorem rampTo_fitsAction (target : Authored) : (rampTo name rate target).FitsAction dialect := by
  have hramp (dialect : Dialect) : (rampTo name rate target).FeedsAction dialect := by
    unfold rampTo
    split <;> constructor <;>
      simp [Feed.ramp?, Feed.speed?, Feed.rampOf, Feed.standardStop, Action.ramp?, Action.speed?, Ending.stop,
        Request.FeedsLanes]
  refine ⟨hramp dialect, ?_⟩
  unfold rampTo
  split <;> exact ⟨nofun, fun _ => nofun⟩

theorem absoluteSpeed_fitsAction :
    Gives (fun o => ∀ r ∈ o, r.FitsAction dialect) (absoluteSpeed name shape rate e) := by
  unfold absoluteSpeed
  refine .bind fun target => ?_
  split
  · exact .pure fun r hr => Option.some.inj hr ▸ rampTo_fitsAction name rate target
  · exact .pure fun r hr => Option.some.inj hr ▸ rampTo_fitsAction name rate target
  · exact .pure fun r hr => Option.some.inj hr ▸ ⟨⟨rfl, rfl, nofun⟩, nofun, fun _ => nofun⟩
  · exact .refuse (by simp)

theorem relativeSpeed_fitsAction :
    Gives (fun o => ∀ r ∈ o, r.FitsAction dialect) (relativeSpeed name shape rate e) := by
  unfold relativeSpeed
  split
  · exact .refuse (by simp)
  · refine .bind fun delta => ?_
    split
    · exact .refuse (by simp)
    · exact .pure fun r hr => Option.some.inj hr ▸ ⟨⟨rfl, rfl, nofun⟩, nofun, fun _ => nofun⟩

theorem speedAction_fitsAction : Gives (fun o => ∀ r ∈ o, r.FitsAction dialect) (speedAction name e) := by
  unfold speedAction
  refine .bind fun shape => .bind fun rate => ?_
  split
  · exact absoluteSpeed_fitsAction name _ _ _
  · exact relativeSpeed_fitsAction name _ _ _
  · exact .refuse (by simp)

theorem laneChange_fitsAction :
    GivesFrom (fun s => s.dialect = dialect) (fun r => r.FitsAction dialect) (laneChange name e) := by
  have hkeeps {α : Type} {m : Staging α} (h : Reads m) : Keeps (fun s => s.dialect = dialect) m :=
    h.keeps fun _ _ hs => hs
  unfold laneChange
  refine .bind (hkeeps (.optionMapM fun l => number_reads l _)) fun target => ?_
  refine .bind (hkeeps (.optionMapM fun d => number_reads d _)) fun duration => ?_
  refine .bind (hkeeps (attr?_reads _ _)) fun authored => .get_bind fun s hs => ?_
  refine Gives.from (.pure ⟨⟨rfl, rfl, ?_⟩, nofun, fun _ => nofun⟩) _
  intro direction _ _ _ heffect feed hfeed
  obtain ⟨rfl, rfl, rfl, rfl⟩ := Effect.laneChange.inj heffect
  obtain rfl := Option.some.inj hfeed
  refine ⟨authored.filter (!Text.allBlank ·), by rw [hs], ?_⟩
  cases authored.filter (!Text.allBlank ·) with
  | none => simp only [Option.map_none]
  | some o => simp only [Option.map_some, Option.getD_some]

theorem keepDistance_fitsAction : Gives (fun r => r.FitsAction dialect) (keepDistance name e) :=
  .bind fun _ => .bind fun _ => .bind fun _ => .bind fun _ => .pure ⟨⟨rfl, rfl, nofun⟩, nofun, fun _ => nofun⟩

theorem activation_fitsAction : Gives (fun o => ∀ r ∈ o, r.FitsAction dialect) (activation name e) := by
  unfold activation
  refine .bind fun lateral => .bind fun longitudinal => ?_
  split
  · exact .refuse (by simp)
  · exact .pure fun r hr => Option.some.inj hr ▸ ⟨⟨rfl, rfl, nofun⟩, nofun, fun _ => nofun⟩

theorem overriding_fitsAction : Gives (fun r => r.FitsAction dialect) (overriding name e) :=
  .bind fun _ => .bind fun _ => .bind fun _ => .bind fun _ => .bind fun _ => .bind fun _ => .pure ⟨⟨rfl, rfl, nofun⟩, nofun, fun _ => nofun⟩

theorem controllerAction_fitsAction :
    Gives (fun o => ∀ r ∈ o, r.FitsAction dialect) (controllerAction name e) := by
  unfold controllerAction
  refine .bind fun controller => ?_
  dsimp only
  split
  · refine .bind fun switches => .pure fun r hr => ?_
    exact Option.some.inj hr ▸ ⟨⟨rfl, rfl, nofun⟩, nofun, fun _ => nofun⟩
  · split
    · exact .bind_of (overriding_fitsAction name _) fun r hr => .pure fun q hq => Option.some.inj hq ▸ hr
    · exact .refuse (by simp)

theorem routePlan_kind (owner : String) : Gives (fun o => ∀ plan ∈ o, plan.kind ≠ .approach) (routePlan owner e) := by
  have hmap {α : Type} (o : Option α) {f : α → Staging RoutePlan}
      (hf : ∀ a, Gives (fun plan => plan.kind ≠ .approach) (f a)) :
      Gives (fun o => ∀ plan ∈ o, plan.kind ≠ .approach) (o.mapM f) := by
    cases o with
    | none => exact .pure (by simp)
    | some a => exact .map fun sources map s plan hp => Option.some.inj hp ▸ hf a sources map s
  have hacquired (action : Element) : Gives (fun plan => plan.kind ≠ .approach) (acquiredPlan owner action) := by
    unfold acquiredPlan
    refine .bind fun c => ?_
    dsimp only
    split
    · exact .bind fun goal => .pure nofun
    · exact .bind fun goal => .pure nofun
  unfold routePlan
  split
  · unfold assignedPlan
    dsimp only
    split
    · exact .bind fun route => hmap _ fun _ => .bind fun _ => .pure nofun
    · exact .bind fun route => hmap _ fun _ => .bind fun _ => .pure nofun
  · unfold trajectoryPlan
    exact .bind fun route => hmap _ fun _ => .bind fun _ => .pure nofun
  · exact .bind_of (hacquired _) fun plan hplan => .pure fun p hp => Option.some.inj hp ▸ hplan
  · exact .refuse (by simp)

theorem routing_fitsAction (owner : String) :
    Gives (fun o => ∀ r ∈ o, r.FitsAction dialect) (routing owner name e) := by
  refine .bind_of (routePlan_kind e owner) fun plan hplan => .pure fun r hr => ?_
  obtain ⟨p, hp, rfl⟩ := Option.map_eq_some_iff.1 hr
  exact ⟨⟨rfl, rfl, nofun⟩, fun q hq => Option.some.inj hq ▸ ⟨rfl, hplan p hp, rfl⟩, nofun⟩

theorem privateAction_fitsAction (owner : String) :
    GivesFrom (fun s => s.dialect = dialect) (fun o => ∀ r ∈ o, r.FitsAction dialect)
      (privateAction owner name e) := by
  unfold privateAction
  split
  · exact (speedAction_fitsAction name _).from _
  · exact .map fun _ _ _ hs r hr => Option.some.inj hr ▸ laneChange_fitsAction name _ _ _ _ hs
  · exact .map fun _ _ _ _ r hr => Option.some.inj hr ▸ keepDistance_fitsAction name _ _ _ _
  · exact (activation_fitsAction name _).from _
  · exact (controllerAction_fitsAction name _).from _
  · exact (routing_fitsAction name _ owner).from _
  · exact Gives.from (.refuse (by simp)) _

theorem customCommand_fitsGated (behavior : Behavior) :
    Gives (fun x => ∀ r, x = .ok r → r.FitsGated dialect behavior) (customCommand name e).run := by
  unfold customCommand
  refine .run_bind (by simp) fun type => ?_
  split
  · exact .run_throw (by simp)
  · refine .run_bind (by simp) fun text => ?_
    split
    · exact .run_throw (by simp)
    · refine .run_pure fun r hr => ?_
      cases hr
      exact ⟨⟨by simp [Action.ramp?], by simp [Action.speed?], nofun⟩, nofun, nofun, fun _ => nofun⟩

theorem request?_fitsGated (owner : String) (behavior : Behavior) :
    GivesFrom (fun s => s.dialect = dialect) (fun x => ∀ r, x = .ok (some r) → r.FitsGated dialect behavior)
      (request? owner behavior e).run := by
  unfold request?
  refine .run_bind (by simp) ((Reads.run_lift (attr_reads _ _)).keeps fun _ _ hs => hs) fun name => ?_
  split
  · next command _ =>
    have hc : Gives (fun x => ∀ r, x = .ok r → r.FitsGated dialect behavior) (customCommand name command).run :=
      customCommand_fitsGated name command behavior
    refine Gives.from (.run_bind_of (by simp) hc fun q hq => .run_pure fun r hr => ?_) _
    cases hr
    exact hq
  · next action _ _ =>
    have hp : GivesFrom (fun s => s.dialect = dialect) (fun x => ∀ o, x = .ok o → ∀ r ∈ o, r.FitsAction dialect)
        (liftM (privateAction owner name action) : Attempt (Option Request)).run :=
      .run_lift fun sources map s hs o ho =>
        Except.ok.inj ho ▸ privateAction_fitsAction name action owner sources map s hs
    refine .run_bind_of (by simp) hp fun o ho => .run_pure fun r hr => ?_
    obtain ⟨q, hq, rfl⟩ := Option.map_eq_some_iff.1 (Except.ok.inj hr)
    exact (ho q hq).gated behavior
  · exact Gives.from (.run_lift (.refuse (by simp))) _

theorem request?_feedsGated (owner : String) (behavior : Behavior) :
    GivesFrom (fun s => s.dialect = dialect) (fun x => ∀ r, x = .ok (some r) → r.FeedsGated dialect behavior)
      (request? owner behavior e).run :=
  fun sources map s hs r hr => (request?_fitsGated e owner behavior sources map s hs r hr).feeds

end Feeds

end Staging

end Scenography
