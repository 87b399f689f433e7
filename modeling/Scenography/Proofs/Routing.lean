import Scenography.Proofs.Approaches
import Scenography.Proofs.Ownership
/-!
Who holds which route. Routes that do not approach a signal are held by their owners, one each, and whoever
stands somewhere has a route when the stories begin.
-/

namespace Scenography

open Markup (Element)

def Entity.travels (e : Entity) : EntityKind × Nat × String × Option Nat × Option Pose :=
  (e.kind, e.id, e.name, e.route, e.pose)

theorem Entity.travels_eq_iff {e e' : Entity} : e.travels = e'.travels ↔
    e.kind = e'.kind ∧ e.id = e'.id ∧ e.name = e'.name ∧ e.route = e'.route ∧ e.pose = e'.pose := by
  simp [travels]

theorem Entity.travels_of_plain {e e' : Entity} (h : e.plain = e'.plain) (hroute : e.route = e'.route) :
    e.travels = e'.travels := by
  have hname : e.plain.name = e'.plain.name := by rw [h]
  have hpose : e.plain.pose = e'.plain.pose := by rw [h]
  exact travels_eq_iff.2 ⟨kind_of_plain h, id_of_plain h, hname, hroute, hpose⟩

theorem Entity.travels_withEvent (n : Nat) (e : Entity) : (Staging.withEvent n e).travels = e.travels := by
  refine travels_eq_iff.2 ⟨Staging.withEvent_kind n e, Staging.withEvent_id n e, ?_⟩
  unfold Staging.withEvent
  dsimp only
  split <;> exact ⟨rfl, rfl, rfl⟩

namespace Stage

structure SameRoutes (s t : Stage) : Prop where
  cast : Cast.Same Entity.travels s.cast t.cast
  routes : t.routes = s.routes
  count : t.counters.routes = s.counters.routes
  signals : t.signals = s.signals

variable {s t : Stage}

theorem Fed.sameRoutes {actor : String} {cue : Cue} {f : Feed} (h : s.Fed actor cue f t) : s.SameRoutes t := by
  obtain rfl | ⟨e, g, hfind, hg, rfl⟩ := h.eq_or_alike
  · exact ⟨.refl _, rfl, rfl, rfl⟩
  · refine ⟨.modify fun e' he => ?_, rfl, hg.routes, rfl⟩
    cases hfind.symm.trans he
    exact Entity.travels_of_plain hg.plain hg.route

theorem Moved.sameRoutes {actor : String} {cue : Option Cue} {feed : Option Feed} (h : s.Moved actor cue feed t) :
    s.SameRoutes t := by
  unfold Moved at h
  split at h
  · exact h.sameRoutes
  · rw [h]
    exact ⟨.refl _, rfl, rfl, rfl⟩

theorem Stored.sameRoutes {event : Event} (h : s.Stored event t) : s.SameRoutes t := by
  cases h with
  | ego _ _ => exact ⟨.refl _, rfl, rfl, rfl⟩
  | stray _ _ => exact ⟨.refl _, rfl, rfl, rfl⟩
  | listed _ _ => exact ⟨.modify fun e _ => e.travels_withEvent _, rfl, rfl, rfl⟩

theorem sameRoutes_shareTimelines (sources : Sources) (map : RoadMap) (s : Stage) :
    s.SameRoutes (Staging.exec sources map Staging.shareTimelines s).2 := by
  refine ⟨⟨rfl, fun kind i => ?_⟩, rfl, rfl, rfl⟩
  cases kind with
  | vehicle =>
    change _ = ((s.cast.vehicles.map Entity.withSharedTimelines).get? i).map Entity.travels
    rw [KeyMap.get?_map, Option.map_map]
    rfl
  | ego => rfl
  | pedestrian => rfl
  | obstacle => rfl

/-- Approaches lead to signals, and all other routes are held by their owners. Whoever stands somewhere
is the one its name stands for. -/
structure Routed (s : Stage) : Prop extends Numbered s where
  cast : s.cast.WellFormed
  faithful : ∀ name e, s.cast.find? name = some e → Cast.nameKey e.name = Cast.nameKey name
  approaches : ∀ n r, s.routes.get? n = some r → r.kind = .approach →
    r.path = [] ∧ ∃ k p, s.signals.get? k = some p ∧ p.route = some n
  travelled : ∀ n r, s.routes.get? n = some r → r.kind ≠ .approach →
    r.path ≠ [] ∧ ∃ e, s.cast.find? r.owner = some e ∧ e.route = some n
  owned : ∀ kind i e n, (s.cast.ofKind kind).get? i = some e → e.route = some n →
    ∃ r, s.routes.get? n = some r ∧ r.kind ≠ .approach ∧ s.cast.who? r.owner = some (kind, i)
  known : ∀ kind i e, (s.cast.ofKind kind).get? i = some e → e.pose.isSome → s.cast.who? e.name = some (kind, i)

namespace Routed

theorem who?_of_find? {name : String} {e : Entity} (hfind : s.cast.find? name = some e) :
    s.cast.who? name = some (e.kind, e.id) := by
  rw [Cast.who?, hfind, Option.map_some]

theorem who?_name (h : s.Routed) {name : String} {e : Entity} (hfind : s.cast.find? name = some e) :
    s.cast.who? e.name = some (e.kind, e.id) := by
  rw [h.cast.who?_eq_some_iff, h.faithful name e hfind, ← h.cast.who?_eq_some_iff]
  exact who?_of_find? hfind

theorem find?_of_who? (h : s.Routed) {name : String} {kind : EntityKind} {i : Nat} {e : Entity}
    (hw : s.cast.who? name = some (kind, i)) (he : (s.cast.ofKind kind).get? i = some e) :
    s.cast.find? name = some e :=
  Cast.find?_eq_some_iff.2 ⟨kind, i, h.cast.who?_eq_some_iff.1 hw, he⟩

theorem congr (h : s.Routed) (hst : s.SameRoutes t) : t.Routed := by
  have hids : Cast.Same (fun e => (e.kind, e.id)) s.cast t.cast := hst.cast.imp fun e e' he => by
    obtain ⟨hkind, hid, -⟩ := Entity.travels_eq_iff.1 he
    rw [hkind, hid]
  constructor
  case toNumbered => exact h.toNumbered.congr hst.routes hst.count
  case cast => exact hids.wellFormed h.cast
  case faithful =>
    intro name e he
    obtain ⟨e', he', hview⟩ := hst.cast.find_eq he
    rw [← (Entity.travels_eq_iff.1 hview).2.2.1]
    exact h.faithful name e' he'
  case approaches =>
    rw [hst.routes, hst.signals]
    exact h.approaches
  case travelled =>
    intro n r hr hkind
    rw [hst.routes] at hr
    obtain ⟨hpath, e, he, hroute⟩ := h.travelled n r hr hkind
    obtain ⟨e', he', hview⟩ := hst.cast.symm.find_eq he
    exact ⟨hpath, e', he', (Entity.travels_eq_iff.1 hview).2.2.2.1.trans hroute⟩
  case owned =>
    intro kind i e n he hroute
    obtain ⟨e', he', hview⟩ := hst.cast.get? he
    rw [hst.routes, ← funext hids.who?]
    exact h.owned kind i e' n he' ((Entity.travels_eq_iff.1 hview).2.2.2.1.trans hroute)
  case known =>
    intro kind i e he hpose
    obtain ⟨e', he', hview⟩ := hst.cast.get? he
    obtain ⟨-, -, hname, -, hpose'⟩ := Entity.travels_eq_iff.1 hview
    rw [← funext hids.who?, ← hname]
    exact h.known kind i e' he' (hpose' ▸ hpose)

theorem attached (h : s.Routed) {owner : String} {plan : RoutePlan} {route : Option Nat}
    (hkind : plan.kind ≠ .approach) (ha : s.Attached owner plan route t) : t.Routed := by
  cases ha with
  | refused j _ => exact { h with }
  | granted hspots hfind hfree =>
    rename_i first rest e
    have hid : ∀ e' : Entity, s.cast.find? owner = some e' →
        { e' with route := some s.counters.routes }.id = e'.id ∧
          { e' with route := some s.counters.routes }.kind = e'.kind := fun _ _ => ⟨rfl, rfl⟩
    have hwho := Cast.who?_modify h.cast hid
    have hfound := h.cast.find?_modify owner fun e => { e with route := some s.counters.routes }
    have hget := h.cast.get?_modify owner fun e => { e with route := some s.counters.routes }
    constructor
    case toNumbered => exact h.toNumbered.insert rfl rfl rfl
    case cast => exact h.cast.modify hid
    case faithful =>
      intro name e' he
      rw [hfound] at he
      split at he
      · obtain ⟨e'', he'', rfl⟩ := Option.map_eq_some_iff.1 he
        exact h.faithful name e'' he''
      · exact h.faithful name e' he
    case approaches =>
      intro n r hr hk
      rw [KeyMap.get?_insert] at hr
      split at hr
      · cases hr
        exact (hkind hk).elim
      · exact h.approaches n r hr hk
    case travelled =>
      intro n r hr hk
      rw [KeyMap.get?_insert] at hr
      split at hr
      next hn =>
        cases hr
        refine ⟨List.cons_ne_nil _ _, { e with route := some s.counters.routes }, ?_, congrArg some hn.symm⟩
        exact (hfound owner).trans (by rw [if_pos rfl, hfind, Option.map_some])
      next hn =>
        obtain ⟨hpath, e', he', hroute⟩ := h.travelled n r hr hk
        refine ⟨hpath, e', h.cast.find?_modify_of_ne hfind he' (fun heq => ?_) _, hroute⟩
        -- the new owner held nothing, so it is not the one who holds this route
        rw [heq, hfree] at hroute
        cases hroute
    case owned =>
      intro kind i e' n he hroute
      rw [hget] at he
      split at he
      next hw =>
        obtain ⟨e'', -, rfl⟩ := Option.map_eq_some_iff.1 he
        obtain rfl := Option.some.inj hroute
        exact ⟨_, KeyMap.get?_insert_self _ _ _, hkind, (hwho _).trans hw⟩
      next =>
        obtain ⟨r, hr, hk, hw⟩ := h.owned kind i e' n he hroute
        exact ⟨r, (KeyMap.get?_insert_of_ne (h.ne hr) _ _).trans hr, hk, (hwho _).trans hw⟩
    case known =>
      intro kind i e' he hpose
      rw [hget] at he
      rw [hwho]
      split at he
      · obtain ⟨e'', he'', rfl⟩ := Option.map_eq_some_iff.1 he
        exact h.known kind i e'' he'' hpose
      · exact h.known kind i e' he hpose

theorem settled (h : s.Routed) (owner : String) {f : Entity → Entity} (hf : ∀ e : Entity, e.Settled (f e)) :
    { s with cast := s.cast.modify owner f }.Routed := by
  have hid : ∀ e, s.cast.find? owner = some e → (f e).id = e.id ∧ (f e).kind = e.kind :=
    fun e _ => ⟨(hf e).id, (hf e).kind⟩
  have hwho := Cast.who?_modify h.cast hid
  have hsame : Cast.Same (fun e => (e.name, e.route)) s.cast (s.cast.modify owner f) :=
    .modify fun e _ => by rw [(hf e).name, (hf e).route]
  constructor
  case toNumbered => exact h.toNumbered.congr rfl rfl
  case cast => exact h.cast.modify hid
  case faithful =>
    intro name e he
    obtain ⟨e', he', hview⟩ := hsame.find_eq he
    rw [← (Prod.mk.inj hview).1]
    exact h.faithful name e' he'
  case approaches => exact h.approaches
  case travelled =>
    intro n r hr hk
    obtain ⟨hpath, e, he, hroute⟩ := h.travelled n r hr hk
    obtain ⟨e', he', hview⟩ := hsame.symm.find_eq he
    exact ⟨hpath, e', he', (Prod.mk.inj hview).2.trans hroute⟩
  case owned =>
    intro kind i e n he hroute
    obtain ⟨e', he', hview⟩ := hsame.get? he
    obtain ⟨r, hr, hk, hw⟩ := h.owned kind i e' n he' ((Prod.mk.inj hview).2.trans hroute)
    exact ⟨r, hr, hk, (hwho _).trans hw⟩
  case known =>
    intro kind i e he hpose
    have hget := h.cast.get?_modify owner f kind i
    rw [show ((s.cast.modify owner f).ofKind kind).get? i = some e from he] at hget
    rw [hwho]
    split at hget
    next hw =>
      obtain ⟨e', he', rfl⟩ := Option.map_eq_some_iff.1 hget.symm
      have hname := h.who?_name (h.find?_of_who? hw he')
      rw [(hf e').name, hname, h.cast.kind_eq _ _ _ he', h.cast.id_eq _ _ _ he']
    next => exact h.known kind i e hget.symm hpose

theorem settles : Staging.Settles Routed where
  reads := fun _ _ hs => { hs with }
  signals := by
    intro s k phase hs
    refine { hs with approaches := fun n r hr hkind => ?_ }
    obtain ⟨hpath, j, p, hp, hroute⟩ := hs.approaches n r hr hkind
    refine ⟨hpath, j, ?_⟩
    rw [KeyMap.get?_modify, hp]
    split
    · exact ⟨_, rfl, hroute⟩
    · exact ⟨_, rfl, hroute⟩
  weather := fun _ _ hs => { hs with }
  entities := fun _ owner _ hf hs => hs.settled owner hf
  routes := fun _ _ _ _ _ hs hkind ha => hs.attached hkind ha

end Routed

def Placed (s : Stage) : Prop :=
  ∀ kind i e, (s.cast.ofKind kind).get? i = some e → e.pose.isSome → e.route.isSome

theorem Placed.congr (h : s.Placed) (hst : s.SameRoutes t) : t.Placed := by
  intro kind i e he hpose
  obtain ⟨e', he', hview⟩ := hst.cast.get? he
  obtain ⟨-, -, -, hroute, hpose'⟩ := Entity.travels_eq_iff.1 hview
  exact hroute ▸ h kind i e' he' (hpose'.symm ▸ hpose)

def Awaiting (names : List String) (s : Stage) : Prop :=
  ∀ kind i e, (s.cast.ofKind kind).get? i = some e → e.pose.isSome → e.route = none → e.name ∈ names

theorem Awaiting.placed (h : s.Awaiting []) : s.Placed := by
  intro kind i e he hpose
  cases hroute : e.route with
  | none => cases h kind i e he hpose hroute
  | some n => rfl

theorem Awaiting.attached (hs : s.Routed) {name : String} {names : List String} (h : s.Awaiting (name :: names))
    {plan : RoutePlan} (hspots : plan.spots ≠ []) {route : Option Nat} (ha : s.Attached name plan route t) :
    t.Awaiting names := by
  have hfound {kind : EntityKind} {i : Nat} {e : Entity} (he : (s.cast.ofKind kind).get? i = some e)
      (hpose : e.pose.isSome) (hname : e.name = name) : s.cast.find? name = some e ∧ s.cast.who? name = some (kind, i) := by
    have hw := hs.known kind i e he hpose
    rw [hname] at hw
    exact ⟨hs.find?_of_who? hw he, hw⟩
  cases ha with
  | refused j hrefused =>
    intro kind i e he hpose hroute
    refine (List.mem_cons.1 (h kind i e he hpose hroute)).resolve_left fun hname => ?_
    have hheld := hrefused.resolve_left hspots e (hfound he hpose hname).1
    rw [hroute] at hheld
    cases hheld
  | granted _ hfind hfree =>
    intro kind i e he hpose hroute
    have hget := hs.cast.get?_modify name (fun e => { e with route := some s.counters.routes }) kind i
    rw [show ((s.cast.modify name _).ofKind kind).get? i = some e from he] at hget
    split at hget
    next hw =>
      obtain ⟨e', -, rfl⟩ := Option.map_eq_some_iff.1 hget.symm
      cases hroute
    next hw =>
      refine (List.mem_cons.1 (h kind i e hget.symm hpose hroute)).resolve_left fun hname => hw ?_
      exact (hfound hget.symm hpose hname).2

theorem Placed.attached (hs : s.Routed) (h : s.Placed) {owner : String} {plan : RoutePlan} {route : Option Nat}
    (ha : s.Attached owner plan route t) : t.Placed := by
  cases ha with
  | refused _ _ => exact h
  | granted _ _ _ =>
    intro kind i e he hpose
    have hget := hs.cast.get?_modify owner (fun e => { e with route := some s.counters.routes }) kind i
    rw [show ((s.cast.modify owner _).ofKind kind).get? i = some e from he] at hget
    split at hget
    · obtain ⟨e', -, rfl⟩ := Option.map_eq_some_iff.1 hget.symm
      rfl
    · exact h kind i e hget.symm hpose

end Stage

namespace Staging

open Stage (Routed Placed Awaiting)

theorem attachRoutes_awaiting (sources : Sources) (map : RoadMap) {plans : List (String × RoutePlan)} {s : Stage}
    (hplans : ∀ p ∈ plans, p.2.kind ≠ .approach ∧ p.2.spots ≠ []) (hs : s.Routed)
    (h : s.Awaiting (plans.map (·.1))) :
    (exec sources map (plans.forM fun (owner, plan) => discard (attachRoute owner plan)) s).2.Routed ∧
      (exec sources map (plans.forM fun (owner, plan) => discard (attachRoute owner plan)) s).2.Placed := by
  induction plans generalizing s with
  | nil => exact ⟨hs, Awaiting.placed h⟩
  | cons p plans ih =>
    obtain ⟨hkind, hspots⟩ := hplans p (by simp)
    have ha := exec_attachRoute sources map s p.1 p.2
    have hrest := ih (fun q hq => hplans q (by simp [hq])) (hs.attached hkind ha) (h.attached hs hspots ha)
    simp only [List.forM_eq_forM, List.forM_cons, exec_bind, exec_discard]
    exact hrest

theorem implicitRoutes_place (sources : Sources) (map : RoadMap) {s : Stage} (hs : s.Routed) :
    (exec sources map implicitRoutes s).2.Routed ∧ (exec sources map implicitRoutes s).2.Placed := by
  unfold implicitRoutes
  rw [exec_bind, exec_getCast]
  refine attachRoutes_awaiting sources map (fun p hp => ?_) hs fun kind i e he hpose hroute => ?_
  · obtain ⟨e, -, hplan⟩ := List.mem_filterMap.1 hp
    split at hplan
    · cases hplan
    · obtain ⟨pose, -, rfl⟩ := Option.map_eq_some_iff.1 hplan
      exact ⟨nofun, List.cons_ne_nil _ _⟩
  · obtain ⟨pose, hpose⟩ := Option.isSome_iff_exists.1 hpose
    refine List.mem_map.2 ⟨(e.name, .ofPose pose), List.mem_filterMap.2 ⟨e, Cast.mem_all he, ?_⟩, rfl⟩
    simp [hroute, hpose]

theorem init_places (e : Element) (sources : Sources) (map : RoadMap) {s : Stage} (hs : s.Routed) (hp : s.Placed) :
    (exec sources map (init e) s).2.Routed ∧ (exec sources map (init e) s).2.Placed := by
  unfold init
  split
  · exact ⟨hs, hp⟩
  next actions _ =>
    have hglobal := Keeps.forM Stage.Routed.settles.globalAction (actions.childrenNamed "GlobalAction") sources map s hs
    have hprivate := Keeps.forM Stage.Routed.settles.initPrivate (actions.childrenNamed "Private") sources map _ hglobal
    rw [exec_bind, exec_bind]
    exact implicitRoutes_place sources map hprivate

end Staging

end Scenography
