import Scenography.Proofs.Motion
import Scenography.Proofs.Routing

namespace Scenography

open Markup (Element)

structure Reroute where
  owner : String
  route : Nat
  kind : RouteKind

def Action.reroute? (owner : String) (a : Action) : Option Reroute :=
  match a.effect with
  | .reroute (some route) kind => some ⟨owner, route, kind⟩
  | _ => none

def Event.reroutes (e : Event) : List Reroute :=
  e.actions.filterMap (Action.reroute? e.owner)

theorem Event.reroutes_append (e : Event) (done : List Action) (a : Action) :
    Event.reroutes { e with actions := done ++ [a] } =
      Event.reroutes { e with actions := done } ++ (a.reroute? e.owner).toList := by
  unfold reroutes
  dsimp only
  rw [List.filterMap_append]
  cases h : a.reroute? e.owner <;> simp [h]

namespace Stage

structure Rerouted (l : List Reroute) (s : Stage) : Prop where
  routed : s.Routed
  placed : s.Placed
  led : ∀ p ∈ l, ∃ r e, s.routes.get? p.route = some r ∧ r.kind = p.kind ∧
    s.cast.find? p.owner = some e ∧ e.route = some p.route
  once : (l.map (·.route)).Nodup

namespace Rerouted

variable {l : List Reroute} {s t : Stage}

theorem congr (h : s.Rerouted l) (hst : s.SameRoutes t) : t.Rerouted l where
  routed := h.routed.congr hst
  placed := h.placed.congr hst
  led := by
    intro p hp
    obtain ⟨r, e, hr, hkind, he, hroute⟩ := h.led p hp
    obtain ⟨e', he', hview⟩ := hst.cast.symm.find_eq he
    exact ⟨r, e', hst.routes ▸ hr, hkind, he', (Entity.travels_eq_iff.1 hview).2.2.2.1.trans hroute⟩
  once := h.once

theorem attached (h : s.Rerouted l) (a : Action) {owner : String} {plan : RoutePlan} {route : Option Nat}
    (hkind : plan.kind ≠ .approach) (ha : s.Attached owner plan route t) :
    t.Rerouted (l ++ (Action.reroute? owner { a with effect := .reroute route plan.kind }).toList) := by
  have hrouted := h.routed.attached hkind ha
  have hplaced := h.placed.attached h.routed ha
  cases ha with
  | refused j _ =>
    refine ⟨hrouted, hplaced, ?_, ?_⟩
    · simpa [Action.reroute?] using h.led
    · simpa [Action.reroute?] using h.once
  | granted hspots hfind hfree =>
    rename_i first rest e
    refine ⟨hrouted, hplaced, fun p hp => ?_, ?_⟩
    · rcases List.mem_append.1 hp with hp | hp
      · obtain ⟨r, e', hr, hk, he', hroute⟩ := h.led p hp
        refine ⟨r, e', (KeyMap.get?_insert_of_ne (h.routed.ne hr) _ _).trans hr, hk, ?_, hroute⟩
        refine h.routed.cast.find?_modify_of_ne hfind he' (fun heq => ?_) _
        rw [heq, hfree] at hroute
        cases hroute
      · obtain rfl := List.mem_singleton.1 hp
        refine ⟨_, { e with route := some s.counters.routes }, KeyMap.get?_insert_self _ _ _, rfl, ?_, rfl⟩
        exact (h.routed.cast.find?_modify owner _ owner).trans (by rw [if_pos rfl, hfind, Option.map_some])
    · rw [List.map_append, List.nodup_append]
      refine ⟨h.once, List.nodup_singleton _, fun n hn m hm => ?_⟩
      obtain ⟨p, hp, rfl⟩ := List.mem_map.1 hn
      obtain ⟨r, -, hr, -⟩ := h.led p hp
      rw [List.mem_singleton.1 hm]
      exact h.routed.ne hr

end Rerouted

end Stage

namespace Staging

theorem rerouted_walks : Walks (fun past s => s.Rerouted (past.flatMap Event.reroutes)) fun past e done s =>
    s.Rerouted ((past ++ [{ e with actions := done }]).flatMap Event.reroutes) where
  reads := fun _ _ _ hs => hs.congr ⟨.refl _, rfl, rfl, rfl⟩
  readsOn := fun _ _ _ _ _ hs => hs.congr ⟨.refl _, rfl, rfl, rfl⟩
  begins := by
    intro past e s hs
    simpa [Event.reroutes] using hs
  reroutes := by
    intro past e done s a plan route t hs hkind ha
    have hattached := hs.attached a hkind ha
    rw [List.flatMap_append, List.flatMap_singleton] at hattached ⊢
    rwa [Event.reroutes_append, ← List.append_assoc]
  moves := by
    intro past e done s r t hs hr hplan hmoved
    have hnone : r.action.reroute? e.owner = none := by
      unfold Action.reroute?
      split
      next route kind heffect => exact (hr.plans.unplanned hplan _ _ heffect).elim
      next => rfl
    have hsame := hs.congr hmoved.sameRoutes
    rw [List.flatMap_append, List.flatMap_singleton] at hsame ⊢
    rwa [Event.reroutes_append, hnone, Option.toList_none, List.append_nil]
  drops := by
    intro past e s hs
    simpa [Event.reroutes] using hs
  keeps := fun _ _ _ _ _ hs _ hstored => hs.congr hstored.sameRoutes

end Staging

section Runs

variable {sources : Sources} {map : RoadMap} {root : Element} {sections : Sections}

theorem declaredStage_routed :
    (declaredStage sources map root sections).Routed ∧ (declaredStage sources map root sections).Placed := by
  have hguided : (headedStage sources map root sections).Guided := Staging.heading_guides root sections sources map
  have h : (headedStage sources map root sections).Enrolled _ (declaredStage sources map root sections) :=
    declaredStage_enrolled
  have happroaches {n : Nat} {r : Route} (hr : (declaredStage sources map root sections).routes.get? n = some r) :=
    hguided.approaches n r (h.routes ▸ hr)
  refine ⟨?_, fun kind i e he hpose => ?_⟩
  · constructor
    case toNumbered => exact hguided.toNumbered.congr h.routes h.count
    case cast => exact h.cast
    case faithful =>
      intro name e he
      obtain ⟨kind, i, hn, hget⟩ := Cast.find?_eq_some_iff.1 he
      exact h.faithful _ kind i e hn hget
    case approaches =>
      intro n r hr _
      rw [h.signals]
      exact (happroaches hr).2
    case travelled =>
      intro n r hr hkind
      exact (hkind (happroaches hr).1).elim
    case owned =>
      intro kind i e n he hroute
      cases (h.resting kind i e he).1.symm.trans hroute
    case known =>
      intro kind i e he hpose
      rw [(h.resting kind i e he).2] at hpose
      cases hpose
  · rw [(h.resting kind i e he).2] at hpose
    cases hpose

theorem openStage_rerouted : (openStage sources map root sections).Rerouted [] := by
  have hdeclared : (declaredStage sources map root sections).Routed ∧ _ := declaredStage_routed
  obtain ⟨hrouted, hplaced⟩ := Staging.init_places sections.init sources map hdeclared.1 hdeclared.2
  have hsettled : (settledStage sources map root sections).Rerouted [] := ⟨hrouted, hplaced, nofun, .nil⟩
  rw [openStage_eq]
  exact hsettled.congr ⟨.refl _, rfl, rfl, rfl⟩

theorem finalStage_rerouted (h : Sections.ofRoot root = .ok sections) :
    (finalStage sources map root).Rerouted ((keptEvents sources map root).flatMap Event.reroutes) := by
  have htold : (told sources map root).2.Rerouted _ := Staging.rerouted_walks.told h openStage_rerouted
  exact htold.congr (Stage.sameRoutes_shareTimelines sources map _)

end Runs

open References

section Scenes

variable {α β κ : Type}

theorem eq_of_mem_flatMap {l : List α} {f : α → List β} (h : (l.flatMap f).Nodup) {a a' : α} (ha : a ∈ l)
    (ha' : a' ∈ l) {b : β} (hb : b ∈ f a) (hb' : b ∈ f a') : a = a' := by
  by_contra hne
  have hsymm : Std.Symm (Function.onFun List.Disjoint f) := ⟨fun _ _ hd => hd.symm⟩
  exact (List.nodup_flatMap.1 h).2.forall ha ha' hne hb hb'

theorem nodup_flatMap_groups [DecidableEq κ] {l : List α} {f : α → List β} (h : (l.flatMap f).Nodup)
    (group : α → Option κ) {ks : List κ} (hks : ks.Nodup) :
    ((l.filter fun a => (group a).isNone).flatMap f ++
      ks.flatMap fun k => (l.filter fun a => group a = some k).flatMap f).Nodup := by
  have hpart (p : α → Bool) : ((l.filter p).flatMap f).Nodup := h.sublist (List.filter_sublist.flatMap f)
  have hmem {p : α → Bool} {b : β} (hb : b ∈ (l.filter p).flatMap f) : ∃ a ∈ l, p a = true ∧ b ∈ f a := by
    obtain ⟨a, ha, hb⟩ := List.mem_flatMap.1 hb
    obtain ⟨ha, hp⟩ := List.mem_filter.1 ha
    exact ⟨a, ha, hp, hb⟩
  have hgroups : (ks.flatMap fun k => (l.filter fun a => group a = some k).flatMap f).Nodup := by
    refine List.nodup_flatMap.2 ⟨fun k _ => hpart _, hks.imp fun {k k'} hne b hb hb' => ?_⟩
    obtain ⟨a, ha, hk, hb⟩ := hmem hb
    obtain ⟨a', ha', hk', hb'⟩ := hmem hb'
    obtain rfl := eq_of_mem_flatMap h ha ha' hb hb'
    exact hne (Option.some.inj ((of_decide_eq_true hk).symm.trans (of_decide_eq_true hk')))
  refine List.nodup_append.2 ⟨hpart _, hgroups, fun b hb b' hb' heq => ?_⟩
  · subst heq
    obtain ⟨k, -, hb'⟩ := List.mem_flatMap.1 hb'
    obtain ⟨a, ha, hnone, hb⟩ := hmem hb
    obtain ⟨a', ha', hk, hb'⟩ := hmem hb'
    obtain rfl := eq_of_mem_flatMap h ha ha' hb hb'
    rw [of_decide_eq_true hk] at hnone
    cases hnone

theorem reroutes_finished (table : ActionTable) (e : Event) (n : Nat) :
    (pointEvent table (numberActions { e with id := n })).reroutes = e.reroutes :=
  filterMap_actions_finished (fun _ _ => rfl) table { e with id := n }

theorem reroutes_finishEvents (table : ActionTable) (l : List Event) :
    (finishEvents table (.numbered l)).values.flatMap Event.reroutes = l.flatMap Event.reroutes := by
  have hvalues : (finishEvents table (.numbered l)).values =
      l.zipIdx.map fun p => pointEvent table (numberActions { p.1 with id := p.2 }) := by
    simp [finishEvents, KeyMap.map, KeyMap.values, Events.numbered]
  have hfst := congrArg (List.flatMap Event.reroutes) (List.zipIdx_map_fst 0 l)
  rw [List.flatMap_map] at hfst
  rw [hvalues, List.flatMap_map, ← hfst]
  simp only [reroutes_finished]

def Scene.reroutes (s : Scene) : List Reroute :=
  (s.events.values ++ s.allEgoEvents).flatMap Event.reroutes

theorem reroutes_of_filed {who : Naming} {kept : List Event} {s : Stage} (h : s.Filed who kept) :
    s.scene.withReferences.reroutes = (freeEvents who kept).flatMap Event.reroutes ++
      s.egoEvents.keys.flatMap fun k => (eventsOfEgo who k kept).flatMap Event.reroutes := by
  have hfree : s.scene.withReferences.events.values.flatMap Event.reroutes =
      (freeEvents who kept).flatMap Event.reroutes := by
    have hevents : s.scene.withReferences.events = finishEvents (enterEvents ∅ s.events.values) s.events := rfl
    rw [hevents, h.events, reroutes_finishEvents]
  have hego : s.scene.withReferences.allEgoEvents.flatMap Event.reroutes =
      s.egoEvents.keys.flatMap fun k => (eventsOfEgo who k kept).flatMap Event.reroutes := by
    have hshelves : s.scene.withReferences.allEgoEvents.flatMap Event.reroutes = s.egoEvents.entries.flatMap fun p =>
        (finishEvents (enterEvents (enterEvents ∅ s.events.values) s.scene.allEgoEvents) p.2).values.flatMap
          Event.reroutes := by
      rw [Scene.allEgoEvents, List.flatMap_assoc]
      simp [Scene.withReferences, KeyMap.values, KeyMap.map, List.flatMap_map]
      rfl
    rw [hshelves, KeyMap.keys, List.flatMap_map]
    refine List.flatMap_congr fun p hp => ?_
    have hshelf := KeyMap.get?_eq_some_iff.2 hp
    rw [h.egoEvents, Events.shelf] at hshelf
    split at hshelf
    · cases hshelf
    · rw [← Option.some.inj hshelf, reroutes_finishEvents]
  rw [Scene.reroutes, List.flatMap_append, hfree, hego]

/-- The routes of a scene and who holds them, and the actions that lead along them. Owners are those whom
their names stand for. -/
structure Scene.RoutesHeld (who : Naming) (s : Scene) : Prop where
  keys : ∃ count, ∀ n, (s.routes.get? n).isSome ↔ n < count
  id_eq : ∀ n r, s.routes.get? n = some r → r.id = n
  approaches : ∀ n r, s.routes.get? n = some r → r.kind = .approach →
    r.path = [] ∧ (∃ k p, s.signals.get? k = some p ∧ p.route = some n) ∧
      ∀ kind i e, (s.ofKind kind).get? i = some e → e.route ≠ some n
  travelled : ∀ n r, s.routes.get? n = some r → r.kind ≠ .approach →
    r.path ≠ [] ∧ ∃ kind i e, (s.ofKind kind).get? i = some e ∧ e.route = some n ∧
      Cast.nameKey e.name = Cast.nameKey r.owner ∧
      ∀ kind' i' e', (s.ofKind kind').get? i' = some e' → e'.route = some n → kind' = kind ∧ i' = i
  held : ∀ kind i e n, (s.ofKind kind).get? i = some e → e.route = some n →
    ∃ r, s.routes.get? n = some r ∧ r.kind ≠ .approach
  placed : ∀ kind i e, (s.ofKind kind).get? i = some e → e.pose.isSome → e.route.isSome
  planner : s.plannerEvents = s.egoEvents
  led : ∀ p ∈ s.reroutes, ∃ r kind i e, s.routes.get? p.route = some r ∧ r.kind = p.kind ∧
    who p.owner = some (kind, i) ∧ (s.ofKind kind).get? i = some e ∧ e.route = some p.route
  once : (s.reroutes.map (·.route)).Nodup

theorem Stage.Rerouted.routesHeld {who : Naming} {kept : List Event} {s : Stage}
    (h : s.Rerouted (kept.flatMap Event.reroutes)) (hfiled : s.Filed who kept) :
    s.scene.withReferences.RoutesHeld who := by
  have hof (kind : EntityKind) : s.scene.withReferences.ofKind kind = s.cast.ofKind kind := s.ofKind_scene kind
  have hreroutes := reroutes_of_filed hfiled
  constructor
  case keys => exact ⟨_, h.routed.keys⟩
  case id_eq => exact h.routed.id_eq
  case approaches =>
    intro n r hr hkind
    obtain ⟨hpath, hsignal⟩ := h.routed.approaches n r hr hkind
    refine ⟨hpath, hsignal, fun kind i e he hroute => ?_⟩
    rw [hof] at he
    obtain ⟨r', hr', hk, -⟩ := h.routed.owned kind i e n he hroute
    obtain rfl := Option.some.inj (hr.symm.trans hr')
    exact hk hkind
  case travelled =>
    intro n r hr hkind
    obtain ⟨hpath, e, hfind, hroute⟩ := h.routed.travelled n r hr hkind
    refine ⟨hpath, e.kind, e.id, e, ?_, hroute, h.routed.faithful _ e hfind, fun kind i e' he hroute' => ?_⟩
    · rw [hof]
      exact h.routed.cast.get?_of_find? hfind
    · rw [hof] at he
      obtain ⟨r', hr', -, hw⟩ := h.routed.owned kind i e' n he hroute'
      obtain rfl := Option.some.inj (hr.symm.trans hr')
      simpa [Stage.Routed.who?_of_find? hfind, eq_comm] using hw
  case held =>
    intro kind i e n he hroute
    rw [hof] at he
    obtain ⟨r, hr, hk, -⟩ := h.routed.owned kind i e n he hroute
    exact ⟨r, hr, hk⟩
  case placed =>
    intro kind i e he
    rw [hof] at he
    exact h.placed kind i e he
  case planner =>
    have hplanner : s.plannerEvents = s.egoEvents := hfiled.plannerEvents
    unfold Scene.withReferences Stage.scene
    dsimp only
    rw [hplanner]
  case led =>
    intro p hp
    have hkept : p ∈ kept.flatMap Event.reroutes := by
      rw [hreroutes] at hp
      rcases List.mem_append.1 hp with hp | hp
      · obtain ⟨e, he, hp⟩ := List.mem_flatMap.1 hp
        exact List.mem_flatMap.2 ⟨e, (List.mem_filter.1 he).1, hp⟩
      · obtain ⟨k, -, hp⟩ := List.mem_flatMap.1 hp
        obtain ⟨e, he, hp⟩ := List.mem_flatMap.1 hp
        exact List.mem_flatMap.2 ⟨e, (List.mem_filter.1 he).1, hp⟩
    obtain ⟨r, e, hr, hkind, hfind, hroute⟩ := h.led p hkept
    refine ⟨r, e.kind, e.id, e, hr, hkind, ?_, ?_, hroute⟩
    · rw [← hfiled.named]
      exact Stage.Routed.who?_of_find? hfind
    · rw [hof]
      exact h.routed.cast.get?_of_find? hfind
  case once =>
    have hkept := h.once
    rw [List.map_flatMap] at hkept
    have hgroups := nodup_flatMap_groups hkept (Event.ego? who) s.egoEvents.nodup_keys
    rw [hreroutes, List.map_append, List.map_flatMap, List.map_flatMap]
    simp only [List.map_flatMap]
    exact hgroups

def Stage.Refuses (s : Stage) (owner : String) (plan : RoutePlan) : Prop :=
  plan.spots = [] ∨ s.cast.find? owner = none ∨ ∃ e, s.cast.find? owner = some e ∧ e.route.isSome

theorem Stage.Attached.refuses_iff {s t : Stage} {owner : String} {plan : RoutePlan} {route : Option Nat}
    (h : s.Attached owner plan route t) :
    (s.Refuses owner plan ↔ route = none) ∧ (s.Refuses owner plan → ∃ j, t = { s with journal := j }) := by
  cases h with
  | refused j hrefused =>
    have hrefuses : s.Refuses owner plan := hrefused.imp id fun hheld => by
      cases hfind : s.cast.find? owner with
      | none => exact .inl rfl
      | some e => exact .inr ⟨e, rfl, hheld e hfind⟩
    exact ⟨⟨fun _ => rfl, fun _ => hrefuses⟩, fun _ => ⟨j, rfl⟩⟩
  | granted hspots hfind hfree =>
    have hgrants : ¬s.Refuses owner plan := by
      rintro (hnone | hnobody | ⟨e, he, hheld⟩)
      · rw [hspots] at hnone
        cases hnone
      · cases hfind.symm.trans hnobody
      · cases hfind.symm.trans he
        rw [hfree] at hheld
        cases hheld
    exact ⟨⟨fun hr => (hgrants hr).elim, nofun⟩, fun hr => (hgrants hr).elim⟩

theorem stage_routes_held :
    (∀ sources map root staged, (stage sources root).run map = .ok staged →
      staged.scene.RoutesHeld (finalStage sources map root).cast.who?) ∧
    ∀ sources map (s : Stage) owner plan,
      (s.Refuses owner plan ↔ (Staging.exec sources map (Staging.attachRoute owner plan) s).1 = none) ∧
      (s.Refuses owner plan →
        ∃ j, (Staging.exec sources map (Staging.attachRoute owner plan) s).2 = { s with journal := j }) := by
  constructor
  · intro sources map root staged h
    obtain ⟨sections, hroot, rfl⟩ := run_stage h
    have hrerouted : (finalStage sources map root).Rerouted _ := finalStage_rerouted hroot
    exact hrerouted.routesHeld (finalStage_filed hroot)
  · intro sources map s owner plan
    exact (Staging.exec_attachRoute sources map s owner plan).refuses_iff

end Scenes

namespace Sample

def place (x y : String) : Element :=
  .of "Position" [] [.of "WorldPosition" [("x", x), ("y", y)] []]

def sent : Element :=
  .of "OpenSCENARIO" [] [
    .of "FileHeader" [] [],
    .of "ParameterDeclarations" [] [
      .of "ParameterDeclaration" [("name", "ActivePlan"), ("parameterType", "string"), ("value", "1")] [],
      .of "ParameterDeclaration"
        [("name", "TrafficInfo_main"), ("parameterType", "string"), ("value", "routeid:7;route:north")] []],
    .of "RoadNetwork" [] [.of "TrafficSignals" [] [.of "TrafficSignalController" [("name", "main")] []]],
    .of "Entities" [] [
      .of "ScenarioObject" [("name", "Ego")] [.of "Vehicle" [("name", "Sedan")] []],
      .of "ScenarioObject" [("name", "Car")] [.of "Vehicle" [("name", "Sedan")] []]],
    .of "Storyboard" [] [
      .of "Init" [] [.of "Actions" [] [
        .of "Private" [("entityRef", "Ego")] [.of "PrivateAction" [] [.of "TeleportAction" [] [place "1" "2"]]]]],
      .of "Story" [] [.of "Act" [] [group "car" [
        event [timeTest "1"] [route "away" "3", route "back" "1"]]]]]]
where
  route (name x : String) : Element :=
    .of "Action" [("name", name)] [.of "PrivateAction" [] [.of "RoutingAction" [] [.of "AssignRouteAction" [] [
      .of "Route" [] [.of "Waypoint" [] [place x "2"]]]]]]

end Sample

theorem sample_routes_held :
    (∃ staged, (stage .bare Sample.sent).run .blank = .ok staged ∧
      staged.scene.RoutesHeld (finalStage .bare .blank Sample.sent).cast.who? ∧
      staged.scene.routes.entries.map (fun p => (p.1, p.2.kind)) = [(0, .approach), (1, .implicit), (2, .assigned)] ∧
      staged.scene.reroutes.map (·.route) = [2]) ∧
    ({} : Stage).Refuses "Ego" ⟨.assigned, []⟩ ∧
    ∃ j, (Staging.exec .bare .blank (Staging.attachRoute "Ego" ⟨.assigned, []⟩) {}).2 = { journal := j } := by
  have hstaged : (stage .bare Sample.sent).run .blank = .ok _ := run_stage_of_isOk (by decide +kernel)
  have hrefuses : ({} : Stage).Refuses "Ego" ⟨.assigned, []⟩ := .inl rfl
  exact ⟨⟨_, hstaged, stage_routes_held.1 _ _ _ _ hstaged, by decide +kernel, by decide +kernel⟩, hrefuses,
    (stage_routes_held.2 .bare .blank {} "Ego" ⟨.assigned, []⟩).2 hrefuses⟩

end Scenography
