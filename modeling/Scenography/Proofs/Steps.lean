import Scenography.Proofs.Doubles
import Scenography.Proofs.Walk

namespace Scenography

open Markup (Element)

namespace Feeding

structure Alike (f g : Feeding) : Prop where
  count : g.counters.events = f.counters.events
  egoCount : g.counters.egoEvents = f.counters.egoEvents
  routes : g.counters.routes = f.counters.routes
  route : g.entity.route = f.entity.route
  plain : g.entity.plain = f.entity.plain

variable (f : Feeding) (cue : Cue)

theorem claimRamps_alike : f.Alike f.claimRamps.2 := by
  unfold claimRamps
  split <;> exact ⟨rfl, rfl, rfl, rfl, rfl⟩

theorem claimMerges_alike : f.Alike f.claimMerges.2 := by
  unfold claimMerges
  split <;> exact ⟨rfl, rfl, rfl, rfl, rfl⟩

theorem addRamp_alike (r : Ramp) : f.Alike (f.addRamp cue r).2 := by
  have h := f.claimRamps_alike
  unfold addRamp
  dsimp only
  split
  · exact ⟨h.count, h.egoCount, h.routes, h.route, h.plain⟩
  · exact h

theorem addMerge_alike (m : Merge) : f.Alike (f.addMerge cue m).2 := by
  have h := f.claimMerges_alike
  unfold addMerge
  dsimp only
  split
  · exact ⟨h.count, h.egoCount, h.routes, h.route, h.plain⟩
  · exact h

theorem addSpeed_alike (v : Speed) : f.Alike (f.addSpeed cue v).2 := by
  unfold addSpeed
  split <;> exact ⟨rfl, rfl, rfl, rfl, rfl⟩

theorem addWalk_alike (w : Walk) : f.Alike (f.addWalk cue w).2 := by
  unfold addWalk
  split <;> exact ⟨rfl, rfl, rfl, rfl, rfl⟩

end Feeding

structure Stage.SameEvents (s t : Stage) : Prop where
  events : t.events = s.events
  egoEvents : t.egoEvents = s.egoEvents
  plannerEvents : t.plannerEvents = s.plannerEvents
  count : t.counters.events = s.counters.events
  egoCount : t.counters.egoEvents = s.counters.egoEvents
  cast : s.cast.Alike t.cast

namespace Stage.SameEvents

variable {s t : Stage}

protected theorem refl (s : Stage) : s.SameEvents s :=
  ⟨rfl, rfl, rfl, rfl, rfl, .refl _⟩

theorem journal (h : s.SameEvents t) (j : Journal) : s.SameEvents { t with journal := j } :=
  ⟨h.events, h.egoEvents, h.plannerEvents, h.count, h.egoCount, h.cast⟩

end Stage.SameEvents

theorem Cue.isFinite_of_ofConditions? {conditions : List Condition} {cue : Cue}
    (h : ofConditions? conditions = some cue) : cue.value.isFinite = true := by
  obtain ⟨c, -, hc⟩ := List.exists_of_findSome?_eq_some h
  have hauthored : ∃ a : Authored, cue.value = a.value := by
    cases ht : c.test <;> simp only [ofTest?, ht, reduceCtorEq, Option.some.injEq] at hc
    all_goals exact ⟨_, by rw [← hc]⟩
  obtain ⟨a, ha⟩ := hauthored
  rw [ha]
  exact a.isFinite_value

namespace Stage

def homes (s : Stage) (i : Nat) : Option (Option String) :=
  (s.cast.vehicles.get? i).map (·.rampTimeline)

inductive Attached (s : Stage) (owner : String) (plan : RoutePlan) : Option Nat → Stage → Prop
  | refused (j : Journal) (h : plan.spots = [] ∨ ∀ e, s.cast.find? owner = some e → e.route.isSome) :
    s.Attached owner plan none { s with journal := j }
  | granted {first : Spot} {rest : List Spot} {e : Entity} (hspots : plan.spots = first :: rest)
    (hfind : s.cast.find? owner = some e) (hfree : e.route = none) :
    s.Attached owner plan (some s.counters.routes) { s with
      counters := { s.counters with routes := s.counters.routes + 1 }
      cast := s.cast.modify owner fun e => { e with route := some s.counters.routes }
      routes := s.routes.insert s.counters.routes
        (.through s.counters.routes owner plan.kind first.waypoint (rest.map (·.waypoint))) }

def fedStage (s : Stage) (name : String) (g : Feeding) : Stage :=
  { s with timelines := g.timelines, counters := g.counters, cast := s.cast.modify name fun _ => g.entity }

inductive Fed (s : Stage) (actor : String) (cue : Cue) : Feed → Stage → Prop
  | unmoved {feed : Feed} (hvehicle : ∀ e, s.cast.find? actor = some e → e.kind ≠ .vehicle)
    (hwalker : ∀ e target, s.cast.find? actor = some e → e.kind = .pedestrian → feed = .speed target →
      Feed.isIdle cue target = true) :
    s.Fed actor cue feed s
  | ramp {v : Entity} (hfind : s.cast.find? actor = some v) (hkind : v.kind = .vehicle) (rate : Float)
    (stopKind : StopKind) (stopValue : Float) :
    s.Fed actor cue (.ramp rate stopKind stopValue)
      (s.fedStage actor (Feeding.addRamp ⟨s.timelines, s.counters, v⟩ cue (Feed.rampOf rate stopKind stopValue)).2)
  | merge {v : Entity} (hfind : s.cast.find? actor = some v) (hkind : v.kind = .vehicle) (target : Int64)
    (offset : Option Float) (duration : Float) :
    s.Fed actor cue (.merge target offset duration)
      (s.fedStage actor (Feeding.addMerge ⟨s.timelines, s.counters, v⟩ cue (Feed.mergeOf target offset duration)).2)
  | speed {v : Entity} (hfind : s.cast.find? actor = some v) (hkind : v.kind = .vehicle) (target : Float) :
    s.Fed actor cue (.speed target)
      (s.fedStage actor (Feeding.addSpeed ⟨s.timelines, s.counters, v⟩ cue ⟨target⟩).2)
  | walk {p : Entity} (hfind : s.cast.find? actor = some p) (hkind : p.kind = .pedestrian) (target : Float)
    (hidle : Feed.isIdle cue target = false) :
    s.Fed actor cue (.speed target) (s.fedStage actor
      (Feeding.addWalk ⟨s.timelines, s.counters, p⟩ cue ⟨target, (p.pose.map (·.angle)).getD 0.0⟩).2)

def Moved (s : Stage) (actor : String) (cue : Option Cue) (feed : Option Feed) (t : Stage) : Prop :=
  match feed, cue with
  | some feed, some cue => s.Fed actor cue feed t
  | _, _ => t = s

def withEgoEvent (s : Stage) (ego : Nat) (event : Event) : Stage :=
  let n := (s.counters.egoEvents.get? ego).getD 0
  let put (m : KeyMap Nat Events) : KeyMap Nat Events :=
    m.insert ego (((m.get? ego).getD ∅).insert n { event with id := n })
  { s with
    counters := { s.counters with egoEvents := s.counters.egoEvents.insert ego (n + 1) }
    egoEvents := put s.egoEvents
    plannerEvents := put s.plannerEvents }

inductive Stored (s : Stage) (event : Event) : Stage → Prop
  | ego {ego : Entity} (hfind : s.cast.find? event.owner = some ego) (hkind : ego.kind = .ego) :
    s.Stored event (s.withEgoEvent ego.id event)
  | listed {e : Entity} (hfind : s.cast.find? event.owner = some e) (hkind : e.kind ≠ .ego) :
    s.Stored event { s with
      counters := { s.counters with events := s.counters.events + 1 }
      cast := s.cast.modify event.owner (Staging.withEvent s.counters.events)
      events := s.events.insert s.counters.events { event with id := s.counters.events } }
  | stray (hfind : s.cast.find? event.owner = none) (j : Journal) :
    s.Stored event { s with
      counters := { s.counters with events := s.counters.events + 1 }
      journal := j
      events := s.events.insert s.counters.events { event with id := s.counters.events } }

/-- What comes of a request: its plan or its feed is carried out, and an action is done. -/
inductive Performed (s : Stage) (owner : String) (cue : Option Cue) (r : Request) : Action → Stage → Prop
  | routed {plan : RoutePlan} {route : Option Nat} {t : Stage} (hplan : r.plan = some plan)
    (hattached : s.Attached owner plan route t) :
    s.Performed owner cue r { r.action with effect := .reroute route plan.kind } t
  | moved {t : Stage} (hplan : r.plan = none) (hmoved : s.Moved owner cue r.feed t) :
    s.Performed owner cue r r.action t

section SameEvents

variable {s t : Stage} {actor : String} {cue : Cue}

theorem Fed.eq_or_alike {f : Feed} (h : s.Fed actor cue f t) : t = s ∨ ∃ e g, s.cast.find? actor = some e ∧
    Feeding.Alike ⟨s.timelines, s.counters, e⟩ g ∧ t = s.fedStage actor g := by
  cases h with
  | unmoved _ _ => exact .inl rfl
  | ramp hfind _ _ _ _ => exact .inr ⟨_, _, hfind, Feeding.addRamp_alike _ _ _, rfl⟩
  | merge hfind _ _ _ _ => exact .inr ⟨_, _, hfind, Feeding.addMerge_alike _ _ _, rfl⟩
  | speed hfind _ _ => exact .inr ⟨_, _, hfind, Feeding.addSpeed_alike _ _ _, rfl⟩
  | walk hfind _ _ _ => exact .inr ⟨_, _, hfind, Feeding.addWalk_alike _ _ _, rfl⟩

theorem Fed.sameEvents {f : Feed} (h : s.Fed actor cue f t) : s.SameEvents t := by
  obtain rfl | ⟨e, g, hfind, hg, rfl⟩ := h.eq_or_alike
  · exact .refl _
  · refine ⟨rfl, rfl, rfl, hg.count, hg.egoCount, .modify fun e' he => ?_⟩
    cases hfind.symm.trans he
    exact hg.plain

theorem Fed.alike {f : Feed} (h : s.Fed actor cue f t) : s.cast.Alike t.cast :=
  h.sameEvents.cast

theorem Moved.sameEvents {cue : Option Cue} {feed : Option Feed} (h : s.Moved actor cue feed t) : s.SameEvents t := by
  unfold Moved at h
  split at h
  · exact h.sameEvents
  · exact h ▸ .refl _

theorem Attached.sameEvents {plan : RoutePlan} {route : Option Nat} (h : s.Attached actor plan route t) :
    s.SameEvents t := by
  cases h with
  | refused j _ => exact (SameEvents.refl s).journal j
  | granted _ _ _ => exact ⟨rfl, rfl, rfl, rfl, rfl, .modify fun _ _ => rfl⟩

theorem Performed.sameEvents {cue : Option Cue} {r : Request} {a : Action} (h : s.Performed actor cue r a t) :
    s.SameEvents t := by
  cases h with
  | routed _ hattached => exact hattached.sameEvents
  | moved _ hmoved => exact hmoved.sameEvents

end SameEvents

end Stage

namespace Staging

variable (sources : Sources) (map : RoadMap) (s : Stage)

theorem exec_attachRoute (owner : String) (plan : RoutePlan) :
    s.Attached owner plan (exec sources map (attachRoute owner plan) s).1
      (exec sources map (attachRoute owner plan) s).2 := by
  unfold attachRoute
  split
  next hspots => exact .refused _ (.inl hspots)
  next first rest hspots =>
    rw [exec_bind, exec_getCast]
    split
    next hfind => exact .refused _ (.inr fun e he => by cases hfind.symm.trans he)
    next e hfind =>
      split
      next n hroute =>
        refine .refused _ (.inr fun e' he => ?_)
        cases hfind.symm.trans he
        rw [hroute]
        rfl
      next hroute => exact .granted hspots hfind hroute

theorem exec_feed (actor : String) (cue : Cue) (f : Feed) :
    s.Fed actor cue f (exec sources map (feed actor cue f) s).2 := by
  unfold feed
  rw [exec_modifyGet]
  split
  next hfind =>
    exact .unmoved (fun e he => by cases hfind.symm.trans he) fun e _ he => by cases hfind.symm.trans he
  next e hfind =>
    have hsame : s.fedStage actor ⟨s.timelines, s.counters, e⟩ = s := by
      rw [Stage.fedStage, Cast.modify_find? hfind]
    have hstill (hk : e.kind ≠ .vehicle) (hw : ∀ target, e.kind = .pedestrian → f = .speed target →
        Feed.isIdle cue target = true) : s.Fed actor cue f (s.fedStage actor ⟨s.timelines, s.counters, e⟩) := by
      rw [hsame]
      refine .unmoved (fun e' he => ?_) fun e' target he => ?_
      · cases hfind.symm.trans he
        exact hk
      · cases hfind.symm.trans he
        exact hw target
    dsimp only
    cases hk : e.kind with
    | vehicle =>
      cases f with
      | ramp rate stopKind stopValue =>
        simp only [Feeding.add, hk]
        exact .ramp hfind hk _ _ _
      | merge target offset duration =>
        simp only [Feeding.add, hk]
        exact .merge hfind hk _ _ _
      | speed target =>
        simp only [Feeding.add, hk]
        exact .speed hfind hk _
    | pedestrian =>
      cases f with
      | speed target =>
        simp only [Feeding.add, hk]
        split
        next hidle => exact hstill (by simp [hk]) fun target' _ heq => Feed.speed.inj heq ▸ hidle
        next hidle => exact .walk hfind hk _ (by simpa using hidle)
      | ramp rate stopKind stopValue =>
        simp only [Feeding.add, hk]
        exact hstill (by simp [hk]) nofun
      | merge target offset duration =>
        simp only [Feeding.add, hk]
        exact hstill (by simp [hk]) nofun
    | ego =>
      simp only [Feeding.add, hk]
      exact hstill (by simp [hk]) (by simp [hk])
    | obstacle =>
      simp only [Feeding.add, hk]
      exact hstill (by simp [hk]) (by simp [hk])

theorem exec_perform {r : Request} (hr : r.PlansAction) (owner : String) (cue : Option Cue) :
    s.Performed owner cue r (exec sources map (attachPlan owner r) s).1
      (exec sources map (feedRequest owner cue r) (exec sources map (attachPlan owner r) s).2).2 := by
  cases hplan : r.plan with
  | some plan =>
    obtain ⟨heffect, -, hfeed⟩ := hr.planned plan hplan
    simp only [attachPlan, hplan, feedRequest, hfeed, exec_bind, exec_pure, heffect, Effect.onRoute]
    exact .routed hplan (exec_attachRoute sources map s owner plan)
  | none =>
    simp only [attachPlan, hplan, exec_pure]
    refine .moved hplan ?_
    unfold feedRequest Stage.Moved
    cases r.feed with
    | none => rfl
    | some f =>
      cases cue with
      | none => rfl
      | some cue =>
        rw [exec_discard]
        exact exec_feed sources map s owner cue f

theorem exec_storeEvent (event : Event) : s.Stored event (exec sources map (storeEvent event) s).2 := by
  simp only [storeEvent, exec_bind, exec_getCast]
  cases hfind : (s.cast.find? event.owner).filter (·.kind = .ego) with
  | some ego =>
    obtain ⟨hsome, hkind⟩ := Option.filter_eq_some_iff.1 hfind
    exact .ego hsome (of_decide_eq_true hkind)
  | none =>
    simp only [storeFreeEvent, exec_bind, exec_count, exec_getCast]
    cases he : s.cast.find? event.owner with
    | none => exact .stray he _
    | some e =>
      refine .listed he fun hk => ?_
      rw [he, Option.filter_some, if_pos (by simp [hk])] at hfind
      cases hfind

structure Walks (I : List Event → Stage → Prop) (J : List Event → Event → List Action → Stage → Prop) : Prop where
  reads : ∀ past (s : Stage) (j : Journal), I past s → I past { s with journal := j }
  readsOn : ∀ past e done (s : Stage) (j : Journal), J past e done s → J past e done { s with journal := j }
  begins : ∀ past e s, I past s → J past e [] s
  reroutes : ∀ past e done (s : Stage) (a : Action) (plan : RoutePlan) route t, J past e done s →
    plan.kind ≠ .approach → s.Attached e.owner plan route t →
    J past e (done ++ [{ a with effect := .reroute route plan.kind }]) t
  moves : ∀ past e done (s : Stage) (r : Request) t, J past e done s →
    r.FitsGated s.dialect (s.cast.behaviorOf e.owner) → r.plan = none →
    s.Moved e.owner (Cue.ofConditions? e.conditions) r.feed t → J past e (done ++ [r.action]) t
  drops : ∀ past e s, J past e [] s → I past s
  keeps : ∀ past e done (s : Stage) t, J past e done s → done ≠ [] → s.Stored { e with actions := done } t →
    I (past ++ [{ e with actions := done }]) t

namespace Walks

variable {I : List Event → Stage → Prop} {J : List Event → Event → List Action → Stage → Prop}
  {s : Stage} {past : List Event}

theorem perform (h : Walks I J) {e : Event} {done : List Action} {r : Request} {a : Action} {t : Stage}
    (hs : J past e done s) (hr : r.FitsGated s.dialect (s.cast.behaviorOf e.owner))
    (hp : s.Performed e.owner (Cue.ofConditions? e.conditions) r a t) : J past e (done ++ [a]) t := by
  cases hp with
  | routed hplan hattached =>
    exact h.reroutes _ _ _ _ r.action _ _ _ hs (hr.plans.planned _ hplan).2.1 hattached
  | moved hplan hmoved => exact h.moves _ _ _ _ r _ hs hr hplan hmoved

theorem action? (h : Walks I J) (past : List Event) (e : Event) (behavior : Behavior) (element : Element) :
    Carries (fun done s => J past e done s ∧ s.cast.behaviorOf e.owner = behavior)
      (Option.toList <$> action? e.owner behavior (Cue.ofConditions? e.conditions) element) := by
  rintro sources map done s ⟨hs, hb⟩
  have hreads : ∀ (t : Stage) (j : Journal), (t.dialect = s.dialect ∧ t.cast = s.cast ∧ J past e done t) →
      { t with journal := j }.dialect = s.dialect ∧ { t with journal := j }.cast = s.cast ∧
        J past e done { t with journal := j } := fun t j ht => ⟨ht.1, ht.2.1, h.readsOn past e done t j ht.2.2⟩
  have hread := (request?_reads element e.owner behavior).keeps hreads sources map s ⟨rfl, rfl, hs⟩
  have hfits := request?_fitsGated element e.owner behavior sources map s rfl
  simp only [exec_map, Staging.action?, exec_bind]
  generalize exec sources map (request? e.owner behavior element).run s = requested at hread hfits ⊢
  obtain ⟨r, t⟩ := requested
  obtain ⟨hdialect, hcast, ht⟩ := hread
  dsimp only at hdialect hcast ht
  match r with
  | .error fault =>
    have hrecorded := (Reads.record fault).keeps hreads sources map t ⟨hdialect, hcast, ht⟩
    simpa [hrecorded.2.1, hb] using hrecorded.2.2
  | .ok none => simpa [hcast, hb] using ht
  | .ok (some r) =>
    have hr := hfits r rfl
    rw [← hb, ← hdialect, ← hcast] at hr
    have hp := exec_perform sources map t hr.plans e.owner (Cue.ofConditions? e.conditions)
    have hdone := h.perform ht hr hp
    have hbehavior := hp.sameEvents.cast.behaviorOf e.owner
    rw [hcast, hb] at hbehavior
    simpa [← hbehavior] using hdone

theorem eventActions (h : Walks I J) (sources : Sources) (map : RoadMap) (hs : I past s) (e : Event)
    (element : Element) :
    J past e (exec sources map (eventActions e.owner e.conditions element) s).1
      (exec sources map (eventActions e.owner e.conditions element) s).2 := by
  have hall := Carries.filterMap (h.action? past e (s.cast.behaviorOf e.owner)) (element.childrenNamed "Action")
    sources map [] s ⟨h.begins past e s hs, rfl⟩
  simp only [Staging.eventActions, exec_bind, exec_getCast]
  exact hall.1

theorem keptEvent (h : Walks I J) (overrides : KeyMap String String) (actor : String) (element : Element) :
    Carries I (Option.toList <$> keptEvent overrides actor element) := by
  intro sources map past s hs
  simp only [exec_map, Staging.keptEvent, draft, exec_bind]
  have hname := (attr_reads element "name").keeps (h.reads past) sources map s hs
  generalize exec sources map (attr element "name") s = named at hname ⊢
  have hstart := (startConditions_reads element actor).keeps (h.reads past) sources map _ hname
  generalize exec sources map (startConditions actor element).run named.2 = started at hstart ⊢
  obtain ⟨started, t⟩ := started
  cases started with
  | error fault => simpa using (Reads.record fault).keeps (h.reads past) sources map t hstart
  | ok conditions =>
    simp only [exec_bind]
    have hcounts := (withCounts_reads overrides actor named.1 conditions).keeps (h.reads past) sources map t hstart
    generalize exec sources map (withCounts overrides actor named.1 conditions) t = counted at hcounts ⊢
    have hactions := h.eventActions sources map hcounts
      { id := 0, name := named.1, owner := actor, conditions := counted.1, actions := [] } element
    generalize exec sources map (Staging.eventActions actor counted.1 element) counted.2 = acted at hactions ⊢
    obtain ⟨actions, t⟩ := acted
    cases actions with
    | nil => simpa using h.drops _ _ _ hactions
    | cons a actions =>
      have hkept := h.keeps _ _ _ _ _ hactions (by simp) (exec_storeEvent sources map t _)
      simpa using hkept

end Walks

/-- A property of stages that each step of the walk keeps. -/
structure Lasts (P : Stage → Prop) : Prop where
  reads : ∀ (s : Stage) (j : Journal), P s → P { s with journal := j }
  reroutes : ∀ (s : Stage) owner plan route t, P s → s.Attached owner plan route t → P t
  feeds : ∀ (s : Stage) actor cue feed t, P s → cue.value.isFinite = true →
    (s.cast.behaviorOf actor).feedsTimelines = true → s.Fed actor cue feed t → P t
  keeps : ∀ (s : Stage) event t, P s → s.Stored event t → P t

theorem Lasts.walks {P : Stage → Prop} (h : Lasts P) : Walks (fun _ => P) fun _ _ _ => P where
  reads := fun _ => h.reads
  readsOn := fun _ _ _ => h.reads
  begins := fun _ _ _ hs => hs
  reroutes := fun _ e _ s _ plan route t hs _ => h.reroutes s e.owner plan route t hs
  moves := by
    intro _ e _ s r t hs hr _ hmoved
    unfold Stage.Moved at hmoved
    split at hmoved
    next feed cue hfeed hcue =>
      exact h.feeds s _ cue feed t hs (Cue.isFinite_of_ofConditions? hcue) (hr.gate feed hfeed) hmoved
    next => exact hmoved ▸ hs
  drops := fun _ _ _ hs => hs
  keeps := fun _ _ _ s t hs _ => h.keeps s _ t hs

end Staging

section Runs

variable {sources : Sources} {map : RoadMap} {root : Element} {sections : Sections}

theorem Staging.Walks.told {I : List Event → Stage → Prop} {J : List Event → Event → List Action → Stage → Prop}
    (h : Walks I J) (hroot : Sections.ofRoot root = .ok sections) (hopen : I [] (openStage sources map root sections)) :
    I (keptEvents sources map root) (told sources map root).2 :=
  told_carries h.reads h.keptEvent hroot hopen

theorem Staging.Lasts.told {P : Stage → Prop} (h : Lasts P) (hroot : Sections.ofRoot root = .ok sections)
    (hopen : P (openStage sources map root sections)) : P (told sources map root).2 :=
  h.walks.told hroot hopen

end Runs

end Scenography
