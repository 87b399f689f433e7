import Scenography.Proofs.Declarations
import Scenography.Proofs.Steps

namespace Scenography

open Markup (Element)

structure Stage.Unplayed (s : Stage) : Prop where
  events : s.events = ∅
  egoEvents : s.egoEvents = ∅
  plannerEvents : s.plannerEvents = ∅
  count : s.counters.events = 0
  egoCount : s.counters.egoEvents = ∅
  ramps : s.counters.ramps = 0
  merges : s.counters.merges = 0
  timelines : s.timelines = .start
  cast : s.cast.WellFormed
  idle : ∀ kind i e, (s.cast.ofKind kind).get? i = some e → e.Idle

namespace Stage.Unplayed

variable {s : Stage}

theorem start : ({} : Stage).Unplayed where
  events := rfl
  egoEvents := rfl
  plannerEvents := rfl
  count := rfl
  egoCount := rfl
  ramps := rfl
  merges := rfl
  timelines := rfl
  cast := by constructor <;> intro kind <;> cases kind <;> simp [Cast.ofKind]
  idle := by
    intro kind
    cases kind <;> simp [Cast.ofKind]

theorem add (h : s.Unplayed) {e : Entity} (he : e.Idle) : { s with cast := s.cast.add e }.Unplayed := by
  refine { h with cast := h.cast.add e, idle := fun kind i e' he' => ?_ }
  rcases Cast.get?_add_cases he' with ⟨-, -, rfl⟩ | he'
  · exact he
  · exact h.idle kind i e' he'

theorem modify (h : s.Unplayed) (name : String) {f : Entity → Entity}
    (hid : ∀ e, (f e).id = e.id ∧ (f e).kind = e.kind) (hidle : ∀ e, e.Idle → (f e).Idle) :
    { s with cast := s.cast.modify name f }.Unplayed := by
  refine { h with cast := h.cast.modify fun e _ => hid e, idle := fun kind i e he => ?_ }
  rcases Cast.get?_modify_cases he with ⟨e', -, he', rfl⟩ | he
  · exact hidle e' (h.idle kind i e' he')
  · exact h.idle kind i e he

theorem journal (h : s.Unplayed) (j : Journal) : { s with journal := j }.Unplayed :=
  { h with }

end Stage.Unplayed

namespace Staging

open Stage (Unplayed)

theorem entities_unplayed (e : Element) : Keeps Unplayed (entities e) := by
  intro sources map s hs
  rw [exec_entities]
  refine declaredIn_carries (I := fun _ => Unplayed) (fun _ s j hs => hs.journal j) (fun _ s _ entity t hs hmade _ => ?_)
    e sources map [] s hs
  obtain ⟨⟨j, rfl⟩, -, hidle, -, -⟩ := hmade
  refine Unplayed.add ?_ hidle
  cases entity.kind <;> exact { hs with }

end Staging

inductive Stage.Planned (s : Stage) (p : SignalPlan) : Stage → Prop
  | plain (hid : p.id = s.counters.signals + 1) (j : Journal) :
    s.Planned p { s with counters := { s.counters with signals := s.counters.signals + 1 }, journal := j }
  | approached (hid : p.id = s.counters.signals + 1) (hroute : p.route = some s.counters.routes) (j : Journal)
    {r : Route} (hr : r.id = s.counters.routes) (hkind : r.kind = .approach) (hpath : r.path = []) :
    s.Planned p { s with
      counters := { s.counters with signals := s.counters.signals + 1, routes := s.counters.routes + 1 }
      journal := j
      routes := s.routes.insert s.counters.routes r }

namespace Staging

open Stage (Unplayed)

def heading (root : Element) (s : Sections) : Staging Unit := do
  header s.header
  match root.child? "ParameterDeclarations" with
  | some e => modify fun s => { s with parameters := s.parameters.declareAll e }
  | none => pure ()
  match root.child? "RoadNetwork" with
  | some e => roadNetwork e
  | none => pure ()

structure Heads (P : Stage → Prop) : Prop where
  reads : ∀ (s : Stage) (j : Journal), P s → P { s with journal := j }
  titles : ∀ (s : Stage) dialect description mapFile parameters, P s →
    P { s with dialect, description, mapFile, parameters }

structure HeadsSignals (P : Stage → Prop) : Prop extends Heads P where
  plans : ∀ (s : Stage) p t, P s → s.Planned p t → P t
  signals : ∀ (s : Stage) signals, P s → P { s with signals }

section Sections

variable (e : Element)

theorem lights_reads (names : LightNames) (phases : List Element) : Reads (lights names phases) := by
  unfold lights
  exact .foldlM fun _ _ => .bind (attr_reads _ _) fun _ => .bind (value_reads _ _) fun _ => .pure _

theorem exec_signalPlan (sources : Sources) (map : RoadMap) (active : Option String) (known : Approaches)
    (s : Stage) :
    s.Planned (exec sources map (signalPlan active e known) s).1.1 (exec sources map (signalPlan active e known) s).2 := by
  unfold signalPlan
  obtain ⟨controller, more, hattr⟩ := attr_reads e "name" sources map s
  have hname : exec sources map (attr e "name") s = _ := hattr s.journal
  simp only [exec_bind, hname, exec_count, Counters.nextSignal]
  cases active with
  | none =>
    obtain ⟨l, more', hl⟩ := lights_reads .standard (e.childrenNamed "Phase") sources map
      { s with counters := { s.counters with signals := s.counters.signals + 1 } }
    have hlights := hl ⟨s.journal.notices ++ more⟩
    simp only [exec_bind, exec_pure, hlights]
    exact .plain rfl _
  | some plan =>
    obtain ⟨l, more', hl⟩ := lights_reads .compact (e.childrenNamed "Phase") sources map
      { s with counters := { s.counters with signals := s.counters.signals + 1 } }
    have hlights := hl ⟨s.journal.notices ++ more⟩
    simp only [compactPlan, exec_bind, exec_get, exec_pure, hlights, approach]
    split
    · exact .plain rfl _
    · split
      · exact .plain rfl _
      · exact .approached rfl rfl _ rfl rfl rfl

theorem signalPlans_carries {I : List SignalPlan → Stage → Prop}
    (hplan : ∀ past (s : Stage) p t, I past s → s.Planned p t → I (past ++ [p]) t) (active : Option String)
    (known : Approaches) (es : List Element) : Carries I (signalPlans active known es) := by
  induction es generalizing known with
  | nil =>
    intro sources map past s hs
    simpa [signalPlans] using hs
  | cons e es ih =>
    intro sources map past s hs
    have hfirst := hplan past s _ _ hs (exec_signalPlan e sources map active known s)
    have hrest := ih (exec sources map (signalPlan active e known) s).1.2 sources map _ _ hfirst
    rw [List.append_assoc, List.singleton_append] at hrest
    simp only [signalPlans, exec_bind, exec_pure]
    exact hrest

theorem mapFile?_reads : Reads (mapFile? e) := by
  unfold mapFile?
  exact .bind (attr_reads _ _) fun _ => .pure _

variable {P : Stage → Prop}

theorem Heads.header (h : Heads P) : Keeps P (header e) := by
  unfold Staging.header
  exact .bind ((attr_reads _ _).keeps h.reads) fun dialect => .bind (.modify fun s hs => h.titles s _ _ _ _ hs)
    fun _ => .bind ((attr_reads _ _).keeps h.reads) fun _ => .modify fun s hs => h.titles s _ _ _ _ hs

namespace HeadsSignals

variable (h : HeadsSignals P)

include h

theorem roadNetwork : Keeps P (roadNetwork e) := by
  have hsignals : Keeps P (Staging.signals e) := by
    unfold Staging.signals
    split
    · exact .pure _
    · refine .get_bind fun _ => .bind (fun sources map s hs => ?_) fun _ => .pure _
      exact signalPlans_carries (I := fun _ => P) (fun _ => h.plans) _ _ _ sources map [] s hs
  have hstored : Keeps P (do
      let signals ← Staging.signals e
      modify fun s => { s with signals }) :=
    .bind hsignals fun _ => .modify fun s hs => h.signals s _ hs
  unfold Staging.roadNetwork
  split
  · exact .bind ((mapFile?_reads _).keeps h.reads) fun _ => .bind (.modify fun s hs => h.titles s _ _ _ _ hs) fun _ =>
      hstored
  · exact hstored

theorem heading (root : Element) (sections : Sections) : Keeps P (heading root sections) := by
  unfold Staging.heading
  refine .bind (h.header _) fun _ => ?_
  dsimp only
  split
  case' h_1 => refine .bind (.modify fun s hs => h.titles s _ _ _ _ hs) fun _ => ?_
  all_goals
    split
    · exact h.roadNetwork _
    · exact .pure _

end HeadsSignals

end Sections

theorem unplayed_heads : HeadsSignals Unplayed where
  reads := fun _ j hs => hs.journal j
  titles := fun _ _ _ _ _ hs => { hs with }
  plans := by
    intro s p t hs hp
    cases hp with
    | plain _ _ => exact { hs with }
    | approached _ _ _ _ _ _ => exact { hs with }
  signals := fun _ _ hs => { hs with }

end Staging

structure Entity.Settled (e e' : Entity) : Prop where
  id : e'.id = e.id
  kind : e'.kind = e.kind
  name : e'.name = e.name
  type : e'.type = e.type
  box : e'.box = e.box
  behavior : e'.behavior = e.behavior
  route : e'.route = e.route
  events : e'.events = e.events
  ramps : e'.rampTimeline = e.rampTimeline
  merges : e'.mergeTimeline = e.mergeTimeline

namespace Staging

open Stage (Unplayed)

structure Settles (P : Stage → Prop) : Prop where
  reads : ∀ (s : Stage) (j : Journal), P s → P { s with journal := j }
  signals : ∀ (s : Stage) n phase, P s →
    P { s with signals := s.signals.modify n fun p => { p with startTime := phase } }
  weather : ∀ (s : Stage) weather, P s → P { s with weather }
  entities : ∀ (s : Stage) owner f, (∀ e : Entity, e.Settled (f e)) → P s →
    P { s with cast := s.cast.modify owner f }
  routes : ∀ (s : Stage) owner plan route t, P s → plan.kind ≠ .approach → s.Attached owner plan route t → P t

section Init

variable (owner : String) (e : Element)

theorem environment?_reads : Reads (environment? e) := by
  unfold environment?
  split
  · exact .pure _
  · exact .pure _
  · refine .bind (attr_reads _ _) fun _ => .bind .read fun sources => ?_
    split
    · exact .pure _
    · exact .bind (.record _) fun _ => .pure _

theorem weatherOf_reads : Reads (weatherOf e) := by
  unfold weatherOf
  exact .bind (.optionMapM fun _ => attr_reads _ _) fun _ => .bind (.optionMapM fun _ => value_reads _ _) fun _ =>
    .bind (.optionMapM fun _ => attr_reads _ _) fun _ => .bind (.optionMapM fun _ => value_reads _ _) fun _ =>
    .bind (.optionMapM fun _ => attr_reads _ _) fun _ => .pure _

theorem weather?_reads : Reads (weather? e) :=
  .bind (environment?_reads e) fun _ => .optionMapM weatherOf_reads

namespace Settles

variable {P : Stage → Prop} (h : Settles P)

include h

theorem keeps {α : Type} {m : Staging α} (hm : Reads m) : Keeps P m :=
  hm.keeps h.reads

theorem signalAction : Keeps P (signalAction e) := by
  unfold Staging.signalAction
  refine .bind (h.keeps (attr_reads _ _)) fun _ => .bind (h.keeps (attr_reads _ _)) fun phase => ?_
  intro sources map s hs
  rw [exec_bind, exec_get]
  split
  · exact h.signals s _ phase hs
  · exact h.reads s _ hs

theorem globalAction : Keeps P (globalAction e) := by
  unfold Staging.globalAction
  dsimp only
  split
  case' h_1 => refine .bind (h.signalAction _) fun _ => ?_
  -- the weather comes next, with signals or without
  all_goals
    split
    · refine .bind (h.keeps (weather?_reads _)) fun w => ?_
      split
      · exact .modify fun s hs => h.weather s _ hs
      · exact .pure _
    · exact .pure _

theorem modifyEntity {f : Entity → Entity} (hf : ∀ e : Entity, e.Settled (f e)) : Keeps P (modifyEntity owner f) :=
  .modify fun s hs => h.entities s owner f hf hs

theorem teleport : Keeps P (teleport owner e) := by
  unfold Staging.teleport
  split
  · exact h.keeps (.warn _ _)
  · refine .bind (h.keeps (spot?_reads _)) fun spot => ?_
    split
    · exact .pure _
    · refine .getCast_bind fun c => ?_
      split
      · exact h.keeps (.warn _ _)
      · exact .get_bind fun _ => h.modifyEntity _ fun _ => ⟨rfl, rfl, rfl, rfl, rfl, rfl, rfl, rfl, rfl, rfl⟩

theorem startSpeed : Keeps P (startSpeed owner e) :=
  .bind (h.keeps (value_reads _ _)) fun _ => h.modifyEntity _ fun _ => ⟨rfl, rfl, rfl, rfl, rfl, rfl, rfl, rfl, rfl, rfl⟩

theorem startController : Keeps P (startController owner e) := by
  unfold Staging.startController
  refine .bind (h.keeps (isTrue_reads _ _)) fun _ => .bind (h.keeps (isTrue_reads _ _)) fun _ => ?_
  refine .getCast_bind fun c => ?_
  split
  · refine h.modifyEntity _ fun entity => ?_
    unfold activateEgo
    split
    next hp => exact ⟨rfl, by rw [Entity.kind, Entity.kind, hp]; rfl, rfl, rfl, rfl, rfl, rfl, rfl, rfl, rfl⟩
    next => exact ⟨rfl, rfl, rfl, rfl, rfl, rfl, rfl, rfl, rfl, rfl⟩
  · exact h.keeps (.warn _ _)

theorem initAction : Keeps P (initAction owner e) := by
  unfold Staging.initAction
  split
  · exact h.teleport _ _
  · exact h.startSpeed _ _
  · exact h.startController _ _
  · exact h.keeps (.warn _ _)

theorem attachRoute {plan : RoutePlan} (hkind : plan.kind ≠ .approach) : Keeps P (attachRoute owner plan) :=
  fun sources map s hs => h.routes s owner plan _ _ hs hkind (exec_attachRoute sources map s owner plan)

theorem initRouting : Keeps P (initRouting owner e) := by
  unfold Staging.initRouting
  refine .bind_of (h.keeps (routePlan_reads _ _)) (routePlan_kind _ _) fun plan hplan => ?_
  split
  · exact .map (h.attachRoute _ (hplan _ rfl))
  · exact .pure _

theorem initPrivate : Keeps P (initPrivate e) := by
  unfold Staging.initPrivate
  refine .bind (h.keeps (attr_reads _ _)) fun owner => .getCast_bind fun c => ?_
  split
  · exact h.keeps (.warn _ _)
  · exact .bind (.forM (h.initAction owner) _) fun _ => .forM (h.initRouting owner) _

theorem implicitRoutes : Keeps P implicitRoutes :=
  .getCast_bind fun c => .forM_of_mem fun p hp => by
    obtain ⟨e, -, hplan⟩ := List.mem_filterMap.1 hp
    split at hplan
    · cases hplan
    · obtain ⟨pose, -, rfl⟩ := Option.map_eq_some_iff.1 hplan
      exact .map (h.attachRoute _ nofun)

theorem init : Keeps P (init e) := by
  unfold Staging.init
  split
  · exact .pure _
  · exact .bind (.forM h.globalAction _) fun _ => .bind (.forM h.initPrivate _) fun _ => h.implicitRoutes

end Settles

end Init

theorem unplayed_settles : Settles Unplayed where
  reads := fun _ j hs => hs.journal j
  signals := fun _ _ _ hs => { hs with }
  weather := fun _ _ hs => { hs with }
  entities := fun _ owner _ hf hs => hs.modify owner (fun e => ⟨(hf e).id, (hf e).kind⟩) fun e he =>
    ⟨(hf e).events.trans he.events, (hf e).ramps.trans he.ramps, (hf e).merges.trans he.merges⟩
  routes := by
    intro s owner plan route t hs _ ha
    cases ha with
    | refused j _ => exact hs.journal j
    | granted _ _ _ =>
      have hmodified := hs.modify owner (f := fun e => { e with route := some s.counters.routes })
        (fun _ => ⟨rfl, rfl⟩) fun _ he => ⟨he.1, he.2, he.3⟩
      exact { hmodified with }

end Staging

section Runs

open Staging

variable (sources : Sources) (map : RoadMap) (root : Element) (sections : Sections)

def headedStage : Stage :=
  (exec sources map (heading root sections) {}).2

def declarations : List (Element × Entity) :=
  (exec sources map (declaredIn sections.entities) (headedStage sources map root sections)).1

def declaredStage : Stage :=
  (exec sources map (declaredIn sections.entities) (headedStage sources map root sections)).2

def settledStage : Stage :=
  (exec sources map (init sections.init) (declaredStage sources map root sections)).2

theorem openStage_eq : openStage sources map root sections =
    { settledStage sources map root sections with
      parameters := (settledStage sources map root sections).parameters.lock } := by
  have hheading (s : Stage) : (exec sources map (opening root sections) s).2 =
      (exec sources map (heading root sections >>= fun _ => entities sections.entities >>= fun _ =>
        init sections.init >>= fun _ => modify fun s => { s with parameters := s.parameters.lock }) s).2 := by
    unfold opening heading
    cases root.child? "ParameterDeclarations" <;> cases root.child? "RoadNetwork" <;> simp only [exec_bind, exec_pure]
  rw [openStage, hheading]
  simp only [exec_bind, exec_entities]
  rfl

theorem openStage_unplayed : (openStage sources map root sections).Unplayed := by
  have hheaded := unplayed_heads.heading root sections sources map {} .start
  have hdeclared := entities_unplayed sections.entities sources map _ hheaded
  rw [exec_entities] at hdeclared
  have hsettled := unplayed_settles.init sections.init sources map _ hdeclared
  rw [openStage_eq]
  exact { hsettled with }

end Runs

end Scenography
