import Scenography.Proofs.Opening
/-!
Whoever gives up says why: work without a result leaves the stage as it was, but for a notice at least. It goes
without a word only where an action names nothing that it could take up.
-/

namespace Scenography

open Markup (Element)

namespace Markup.Element

variable (e : Element)

def AssignsNoRoute : Prop :=
  e.child? "Route" = none ∧ e.child? "CatalogReference" = none

def FollowsNoTrajectory : Prop :=
  e.child? "Trajectory" = none ∧ e.descend? ["TrajectoryRef", "Trajectory"] = none ∧
    ((e.child? "TrajectoryRef").getD e).child? "CatalogReference" = none

def LeadsNowhere : Prop :=
  (∃ assign, e.child? "AssignRouteAction" = some assign ∧ assign.AssignsNoRoute) ∨
    e.child? "AssignRouteAction" = none ∧
      ∃ follow, e.child? "FollowTrajectoryAction" = some follow ∧ follow.FollowsNoTrajectory

structure RoutesNowhere : Prop where
  speed : e.descend? ["LongitudinalAction", "SpeedAction"] = none
  lane : e.descend? ["LateralAction", "LaneChangeAction"] = none
  distance : e.descend? ["LateralAction", "LateralDistanceAction"] = none
  activation : e.child? "ActivateControllerAction" = none
  controller : e.child? "ControllerAction" = none
  routing : ∃ routing, e.child? "RoutingAction" = some routing ∧ routing.LeadsNowhere

def ReroutesNowhere : Prop :=
  e.descend? ["UserDefinedAction", "CustomCommandAction"] = none ∧
    ∃ action, e.child? "PrivateAction" = some action ∧ action.RoutesNowhere

def BringsNoEnvironment : Prop :=
  e.child? "Environment" = none ∧ e.child? "CatalogReference" = none

def Resolves (ps : Parameters) (name : String) : Prop :=
  ∀ token, e.attr? name = some token → (ps.resolveOrKeep token).2 = none

end Markup.Element

namespace Staging

variable {α β : Type} {failed : β → Prop}

/-- Work that fails leaves the stage as it was, with a notice more at least. -/
def Explains (failed : α → Prop) (m : Staging α) : Prop :=
  ∀ sources map s, failed (exec sources map m s).1 →
    ∃ notice more, (exec sources map m s).2 = { s with journal := ⟨s.journal.notices ++ notice :: more⟩ }

namespace Explains

theorem of_gives {m : Staging β} (h : Gives (fun b => ¬failed b) m) : Explains failed m :=
  fun sources map s hfailed => (h sources map s hfailed).elim

protected theorem pure {b : β} (h : ¬failed b) : Explains failed (pure b) :=
  of_gives (.pure h)

theorem refuse (failed : Option β → Prop) (code message : String) : Explains failed (refuse code message) :=
  fun _ _ _ _ => ⟨⟨.warning, code, message⟩, [], rfl⟩

theorem after {s t : Stage} {more : List Notice}
    (h : ∃ notice later, t = { s with journal := ⟨s.journal.notices ++ more ++ notice :: later⟩ }) :
    ∃ notice later, t = { s with journal := ⟨s.journal.notices ++ notice :: later⟩ } := by
  obtain ⟨notice, later, rfl⟩ := h
  cases more with
  | nil => exact ⟨notice, later, by rw [List.append_nil]⟩
  | cons first more => exact ⟨first, more ++ notice :: later, by rw [List.append_assoc, List.cons_append]⟩

theorem bind_reads {m : Staging α} {f : α → Staging β} (hm : Reads m) (hf : ∀ a, Explains failed (f a)) :
    Explains failed (m >>= f) := by
  intro sources map s hfailed
  obtain ⟨a, more, h⟩ := hm sources map s
  have hread : exec sources map m s = _ := h s.journal
  rw [exec_bind, hread] at hfailed ⊢
  exact after (hf a sources map _ hfailed)

theorem bind_option {m : Staging (Option α)} {f : Option α → Staging β} (hm : Reads m) (he : Explains (· = none) m)
    (hnone : Reads (f none)) (hsome : ∀ a, Explains failed (f (some a))) : Explains failed (m >>= f) := by
  intro sources map s hfailed
  obtain ⟨o, more, h⟩ := hm sources map s
  have hread : exec sources map m s = _ := h s.journal
  have hexplained := he sources map s
  rw [exec_bind, hread] at hfailed ⊢
  rw [hread] at hexplained
  cases o with
  | some a => exact after (hsome a sources map _ hfailed)
  | none =>
    obtain ⟨notice, later, hstage⟩ := hexplained rfl
    obtain ⟨b, rest, h'⟩ := hnone sources map s
    have hreads : exec sources map (f none) _ = _ := h' ⟨s.journal.notices ++ more⟩
    obtain rfl : more = notice :: later := List.append_cancel_left (congrArg (·.journal.notices) hstage)
    exact ⟨notice, later ++ rest, by rw [hreads, List.append_assoc, List.cons_append]⟩

theorem optionMap {m : Staging (Option α)} {f : α → Staging β} (hm : Reads m) (he : Explains (· = none) m) :
    Explains (· = none) (m >>= fun o => o.mapM f) := by
  refine bind_option hm he (.pure none) fun a => of_gives ?_
  exact .map fun _ _ _ => nofun

end Explains

structure FailsAloud (failed : α → Prop) (silent : Stage → Prop) (m : Staging α) : Prop where
  explained : ∀ sources map s, failed (exec sources map m s).1 → ¬silent s →
    ∃ notice more, (exec sources map m s).2 = { s with journal := ⟨s.journal.notices ++ notice :: more⟩ }
  silent : ∀ sources map s, silent s → failed (exec sources map m s).1 ∧ (exec sources map m s).2 = s

theorem Explains.failsAloud {failed : α → Prop} {m : Staging α} (h : Explains failed m) :
    FailsAloud failed (fun _ => False) m where
  explained sources map s hfailed _ := h sources map s hfailed
  silent _ _ _ := False.elim

section Positions

variable (shape : Element)

theorem anchor?_explains : Explains (· = none) (anchor? shape) := by
  unfold anchor?
  refine .bind_reads (attr_reads _ _) fun name => .bind_reads .getCast fun c => ?_
  split
  · exact .pure nofun
  · exact .refuse _ _ _

theorem onMap_explains (found : Option Spot) : Explains (· = none) (onMap shape found) := by
  cases found with
  | some spot => exact .pure nofun
  | none => exact .refuse _ _ _

theorem fromAnchor_explains {f : Pose → Staging (Option Spot)} (hf : ∀ a, Reads (f a)) :
    Explains (· = none) (fromAnchor shape f) :=
  .bind_option (anchor?_reads shape) (anchor?_explains shape) (.pure none) fun a =>
    .bind_reads (hf a) (onMap_explains shape)

theorem shapeSpot_explains : Explains (· = none) (shapeSpot shape) := by
  unfold shapeSpot
  split
  · exact .bind_reads (worldSpot_reads shape) (onMap_explains shape)
  · exact .bind_reads (relativeWorldSpot_reads shape) (onMap_explains shape)
  · exact .bind_reads (laneSpot_reads shape) (onMap_explains shape)
  · exact fromAnchor_explains shape (relativeLaneSpot_reads shape)
  · exact .bind_reads (roadSpot_reads shape) (onMap_explains shape)
  · exact fromAnchor_explains shape (relativeRoadSpot_reads shape)
  · exact .refuse _ _ _

theorem spot?_explains (position : Element) : Explains (· = none) (spot? position) := by
  unfold spot?
  split
  · exact .refuse _ _ _
  · exact shapeSpot_explains _

end Positions

section Plans

variable (owner : String) (e : Element)

theorem catalogued?_explains {find : Catalog → String → Option Element} (h : e.child? "CatalogReference" ≠ none) :
    Explains (· = none) (catalogued? e find) := by
  unfold catalogued?
  split
  next hnone => exact absurd hnone h
  next reference _ =>
    refine .bind_reads (attr_reads _ _) fun name => .bind_reads .read fun sources => ?_
    split
    · exact .pure nofun
    · exact fun _ _ _ _ => ⟨_, [], rfl⟩

theorem assignedPlan_explains (h : ¬e.AssignsNoRoute) : Explains (· = none) (assignedPlan e) := by
  unfold assignedPlan
  split
  next route _ => exact .optionMap (.pure (some route)) (.pure nofun)
  next hnone => exact .optionMap (catalogued?_reads e _) (catalogued?_explains e fun href => h ⟨hnone, href⟩)

theorem trajectory?_explains (h : ¬e.FollowsNoTrajectory) : Explains (· = none) (trajectory? e) := by
  unfold trajectory?
  split
  next => exact .pure nofun
  next hnone =>
    obtain ⟨hown, hreferred⟩ := Option.or_eq_none_iff.1 hnone
    exact catalogued?_explains _ fun href => h ⟨hown, hreferred, href⟩

theorem routePlan_explains (h : ¬e.LeadsNowhere) : Explains (· = none) (routePlan owner e) := by
  unfold routePlan
  cases hassign : e.child? "AssignRouteAction" with
  | some assign => exact assignedPlan_explains assign fun hnone => h (.inl ⟨assign, hassign, hnone⟩)
  | none =>
    cases hfollow : e.child? "FollowTrajectoryAction" with
    | some follow =>
      have htrajectory := trajectory?_explains follow fun hnone => h (.inr ⟨hassign, follow, hfollow, hnone⟩)
      exact .optionMap (trajectory?_reads follow) htrajectory
    | none =>
      cases e.child? "AcquirePositionAction" with
      | some acquire => exact .bind_reads (acquiredPlan_reads acquire owner) fun plan => .pure nofun
      | none => exact .refuse _ _ _

variable (sources : Sources) (map : RoadMap) (s : Stage)

theorem exec_catalogued?_none {find : Catalog → String → Option Element} (h : e.child? "CatalogReference" = none) :
    exec sources map (catalogued? e find) s = (none, s) := by
  rw [catalogued?, h]
  rfl

theorem exec_routePlan_nowhere (h : e.LeadsNowhere) : exec sources map (routePlan owner e) s = (none, s) := by
  unfold routePlan
  rcases h with ⟨assign, hassign, hroute, href⟩ | ⟨hassign, follow, hfollow, hown, hreferred, href⟩
  · rw [hassign]
    change exec sources map (assignedPlan assign) s = _
    rw [assignedPlan, hroute, exec_bind, exec_catalogued?_none assign sources map s href]
    rfl
  · rw [hassign, hfollow]
    change exec sources map (trajectoryPlan follow) s = _
    rw [trajectoryPlan, trajectory?, hown, hreferred, exec_bind]
    change exec sources map ((exec sources map (catalogued? _ _) s).1.mapM _) (exec sources map (catalogued? _ _) s).2 = _
    rw [exec_catalogued?_none _ sources map s href]
    rfl

theorem routePlan_failsAloud : FailsAloud (· = none) (fun _ => e.LeadsNowhere) (routePlan owner e) where
  explained sources map s hfailed h := routePlan_explains owner e h sources map s hfailed
  silent sources map s h := by
    rw [exec_routePlan_nowhere owner e sources map s h]
    exact ⟨rfl, rfl⟩

end Plans

section Requests

variable (owner name shape : String) (rate : Authored) (e : Element)

theorem absoluteSpeed_explains : Explains (· = none) (absoluteSpeed name shape rate e) := by
  unfold absoluteSpeed
  refine .bind_reads (number_reads _ _) fun target => ?_
  split
  · exact .pure nofun
  · exact .pure nofun
  · exact .pure nofun
  · exact .refuse _ _ _

theorem relativeSpeed_explains : Explains (· = none) (relativeSpeed name shape rate e) := by
  unfold relativeSpeed
  split
  · exact .refuse _ _ _
  · refine .bind_reads (value_reads _ _) fun delta => ?_
    split
    · exact .refuse _ _ _
    · exact .pure nofun

theorem speedAction_explains : Explains (· = none) (speedAction name e) := by
  unfold speedAction
  refine .bind_reads (.optionMapM fun d => attr_reads d _) fun shape => ?_
  refine .bind_reads (.optionMapM fun d => number_reads d _) fun rate => ?_
  split
  · exact absoluteSpeed_explains name _ _ _
  · exact relativeSpeed_explains name _ _ _
  · exact .refuse _ _ _

theorem activation_explains : Explains (· = none) (activation name e) := by
  unfold activation
  refine .bind_reads (attr?_reads _ _) fun lateral => .bind_reads (attr?_reads _ _) fun longitudinal => ?_
  split
  · exact .refuse _ _ _
  · exact .pure nofun

theorem controllerAction_explains : Explains (· = none) (controllerAction name e) := by
  unfold controllerAction
  refine .bind_reads (.optionMapM fun a => attr_reads a _) fun controller => ?_
  dsimp only
  split
  · exact .bind_reads (switches_reads _) fun switches => .pure nofun
  · split
    · exact .bind_reads (overriding_reads name _) fun r => .pure nofun
    · exact .refuse _ _ _

theorem routing_explains (h : ¬e.LeadsNowhere) : Explains (· = none) (routing owner name e) :=
  .bind_option (routePlan_reads e owner) (routePlan_explains owner e h) (.pure none) fun _ => .pure nofun

theorem privateAction_explains (h : ¬e.RoutesNowhere) : Explains (· = none) (privateAction owner name e) := by
  have hsome {m : Staging Request} : Explains (· = none) (some <$> m) := .of_gives (.map fun _ _ _ => nofun)
  unfold privateAction
  split
  next => exact speedAction_explains name _
  next => exact hsome
  next => exact hsome
  next => exact activation_explains name _
  next => exact controllerAction_explains name _
  next hspeed hlane hdistance hactivation hcontroller hrouting =>
    exact routing_explains owner name _ fun hnowhere =>
      h ⟨hspeed, hlane, hdistance, hactivation, hcontroller, _, hrouting, hnowhere⟩
  next => exact .refuse _ _ _

theorem exec_privateRequest (behavior : Behavior) (sources : Sources) (map : RoadMap) (s : Stage) :
    exec sources map (do return (← privateAction owner name e).map (Request.gated behavior) : Attempt _).run s =
      (.ok ((exec sources map (privateAction owner name e) s).1.map (Request.gated behavior)),
        (exec sources map (privateAction owner name e) s).2) := by
  have hrun : (liftM (privateAction owner name e) : Attempt (Option Request)).run = Except.ok <$> privateAction owner name e := rfl
  rw [ExceptT.run_bind, hrun, exec_bind, exec_map]
  rfl

theorem privateRequest_explains (behavior : Behavior) (h : ¬e.RoutesNowhere) : Explains (· = .ok none)
    (do return (← privateAction owner name e).map (Request.gated behavior) : Attempt _).run := by
  intro sources map s hfailed
  rw [exec_privateRequest] at hfailed ⊢
  exact privateAction_explains owner name e h sources map s (Option.map_eq_none_iff.1 (Except.ok.inj hfailed))

theorem request?_explains (behavior : Behavior) (h : ¬e.ReroutesNowhere) :
    Explains (· = .ok none) (request? owner behavior e).run := by
  unfold request?
  rw [ExceptT.run_bind]
  refine .bind_reads (.run_lift (attr_reads _ _)) fun name => ?_
  cases name with
  | error fault => exact .pure nofun
  | ok name =>
    cases hcommand : e.descend? ["UserDefinedAction", "CustomCommandAction"] with
    | some command => exact .of_gives (.run_bind (fun _ => nofun) fun _ => .run_pure nofun)
    | none =>
      cases haction : e.child? "PrivateAction" with
      | some action =>
        exact privateRequest_explains owner name action behavior fun hnowhere => h ⟨hcommand, action, haction, hnowhere⟩
      | none => exact fun _ _ _ _ => ⟨_, [], rfl⟩

variable (sources : Sources) (map : RoadMap) (s : Stage)

theorem exec_privateAction_nowhere (h : e.RoutesNowhere) :
    exec sources map (privateAction owner name e) s = (none, s) := by
  obtain ⟨hspeed, hlane, hdistance, hactivation, hcontroller, routing, hrouting, hnowhere⟩ := h
  rw [privateAction, hspeed, hlane, hdistance, hactivation, hcontroller, hrouting]
  change exec sources map (Staging.routing owner name routing) s = _
  rw [Staging.routing, exec_bind, exec_routePlan_nowhere owner routing sources map s hnowhere]
  rfl

theorem exec_request?_nowhere (behavior : Behavior) (h : e.ReroutesNowhere) :
    exec sources map (request? owner behavior e).run s = (.ok none, (exec sources map (attr e "name") s).2) := by
  obtain ⟨hcommand, action, haction, hnowhere⟩ := h
  have hname : (liftM (attr e "name") : Attempt String).run = Except.ok <$> attr e "name" := rfl
  rw [request?, ExceptT.run_bind, hname, exec_bind, exec_map, hcommand, haction]
  refine (exec_privateRequest owner _ action behavior sources map _).trans ?_
  rw [exec_privateAction_nowhere owner _ action sources map _ hnowhere]
  rfl

theorem exec_attr_stage : (exec sources map (attr e name) s).2 =
    ((e.attr? name).elim s fun token => (exec sources map (resolve token) s).2) := by
  rw [attr, attrOr, attr?, exec_bind, exec_pure]
  cases e.attr? name with
  | none => rfl
  | some token =>
    change (exec sources map (some <$> resolve token) s).2 = _
    rw [exec_map]
    rfl

theorem exec_attr_resolves (h : e.Resolves s.parameters name) : (exec sources map (attr e name) s).2 = s := by
  rw [exec_attr_stage]
  cases htoken : e.attr? name with
  | none => rfl
  | some token =>
    change (exec sources map (resolve token) s).2 = s
    have hresolved := h token htoken
    rw [resolve, exec_bind, exec_get]
    dsimp only
    revert hresolved
    rcases s.parameters.resolveOrKeep token with ⟨value, - | fault⟩
    · exact fun _ => rfl
    · exact fun h => absurd h (Option.some_ne_none fault)

theorem exec_attr_unresolved (h : ¬e.Resolves s.parameters name) :
    ∃ notice, (exec sources map (attr e name) s).2 = { s with journal := ⟨s.journal.notices ++ [notice]⟩ } := by
  obtain ⟨token, htoken, hresolved⟩ : ∃ token, e.attr? name = some token ∧ (s.parameters.resolveOrKeep token).2 ≠ none := by
    simpa [Element.Resolves] using h
  rw [exec_attr_stage, htoken]
  change ∃ notice, (exec sources map (resolve token) s).2 = _
  rw [resolve, exec_bind, exec_get]
  dsimp only
  revert hresolved
  rcases s.parameters.resolveOrKeep token with ⟨value, - | fault⟩
  · exact fun h => (h rfl).elim
  · exact fun _ => ⟨fault.notice, rfl⟩

theorem request?_failsAloud (behavior : Behavior) : FailsAloud (· = .ok none)
    (fun s => e.ReroutesNowhere ∧ e.Resolves s.parameters "name") (request? owner behavior e).run where
  explained sources map s hfailed hloud := by
    by_cases hnowhere : e.ReroutesNowhere
    · rw [exec_request?_nowhere owner e sources map s behavior hnowhere]
      obtain ⟨notice, hnotice⟩ := exec_attr_unresolved "name" e sources map s fun h => hloud ⟨hnowhere, h⟩
      exact ⟨notice, [], hnotice⟩
    · exact request?_explains owner e behavior hnowhere sources map s hfailed
  silent sources map s hsilent := by
    rw [exec_request?_nowhere owner e sources map s behavior hsilent.1]
    exact ⟨rfl, exec_attr_resolves "name" e sources map s hsilent.2⟩

end Requests

section Entities

theorem entity?_explains (object : Element) : Explains (· = none) (entity? object) := by
  unfold entity?
  refine .bind_reads (attr?_reads _ _) fun name => ?_
  split
  · exact .refuse _ _ _
  · refine .bind_reads (declaration?_reads _) fun d => ?_
    split
    · exact .refuse _ _ _
    · exact .of_gives (.map fun _ _ _ => nofun)

end Entities

section Weathers

variable (action : Element)

theorem environment?_explains (h : ¬action.BringsNoEnvironment) : Explains (· = none) (environment? action) := by
  unfold environment?
  split
  next => exact .pure nofun
  next hown hreference => exact absurd ⟨hown, hreference⟩ h
  next =>
    refine .bind_reads (attr_reads _ _) fun name => .bind_reads .read fun sources => ?_
    split
    · exact .pure nofun
    · exact fun _ _ _ _ => ⟨_, [], rfl⟩

theorem weather?_failsAloud : FailsAloud (· = none) (fun _ => action.BringsNoEnvironment) (weather? action) where
  explained sources map s hfailed h :=
    Explains.optionMap (environment?_reads action) (environment?_explains action h) sources map s hfailed
  silent := by
    rintro sources map s ⟨hown, hreference⟩
    rw [weather?, environment?, hown, hreference]
    exact ⟨rfl, rfl⟩

end Weathers

end Staging

open Staging

/-- An action without an effect, a route without a plan, a position that is nowhere, an object that is nobody and an
environment that is not there leave the stage as it was, with a notice at least. Only an action that comes down to an
assignment without a route or to a pursuit without a trajectory, and an environment that is neither given nor referred
to, are passed over without a word. -/
theorem failures_explained (owner : String) (behavior : Behavior) (e : Element) :
    FailsAloud (· = .ok none) (fun s => e.ReroutesNowhere ∧ e.Resolves s.parameters "name")
      (request? owner behavior e).run ∧
    FailsAloud (· = none) (fun _ => e.LeadsNowhere) (routePlan owner e) ∧
    FailsAloud (· = none) (fun _ => False) (spot? e) ∧
    FailsAloud (· = none) (fun _ => False) (entity? e) ∧
    FailsAloud (· = none) (fun _ => e.BringsNoEnvironment) (weather? e) :=
  ⟨request?_failsAloud owner e behavior, routePlan_failsAloud owner e, (spot?_explains e).failsAloud,
    (entity?_explains e).failsAloud, weather?_failsAloud e⟩

def Sample.routeless : Element :=
  .of "Action" [("name", "go")] [.of "PrivateAction" [] [.of "RoutingAction" [] [.of "AssignRouteAction" [] []]]]

theorem routeless_unexplained :
    exec .bare .blank (request? "Car" .scripted Sample.routeless).run {} = (.ok none, {}) ∧
      exec .bare .blank (weather? (.of "EnvironmentAction" [] [])) {} = (none, {}) :=
  ⟨rfl, rfl⟩

end Scenography
