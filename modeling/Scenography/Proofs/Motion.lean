import Mathlib.Data.List.Induction
import Scenography.Proofs.Ownership
import Scenography.Proofs.Steps
import Scenography.Proofs.Timelines

namespace Scenography

open Markup (Element)
open Timelines (Held feedOne store? own?)

variable {π : Type}

def Test.timing? : Test → Option Cue
  | .time _ value => some ⟨value.value, .time, .none⟩
  | .timeToCollision _ _ _ value mode => some ⟨value.value, .collision, mode⟩
  | .distance _ _ _ value mode => some ⟨value.value, .distance, mode⟩
  | .point _ _ value _ => some ⟨value.value, .point, .none⟩
  | .laneAttach .. => none
  | .elementState .. => none
  | .reach .. => none
  | .speed .. => none
  | .headway .. => none

/-- A later timing condition overrules the ones before it. -/
def lastTiming? : List Condition → Option Cue
  | [] => none
  | c :: cs => (lastTiming? cs).or c.test.timing?

def Event.nodes (f : Action → Option π) (e : Event) : List (Node π) :=
  match lastTiming? e.conditions with
  | some cue => (e.actions.filterMap f).map fun payload => ⟨cue, 1, payload⟩
  | none => []

theorem ofConditions?_eq (conditions : List Condition) : Cue.ofConditions? conditions = lastTiming? conditions := by
  induction conditions with
  | nil => rfl
  | cons c cs ih =>
    have htest : Cue.ofTest? c.test = c.test.timing? := by cases c.test <;> rfl
    rw [lastTiming?, ← ih, ← htest, Cue.ofConditions?, List.reverse_cons, List.findSome?_append, Cue.ofConditions?]
    simp

theorem Event.nodes_eq (f : Action → Option π) (e : Event) : e.nodes f =
    ((Cue.ofConditions? e.conditions).map fun cue => (e.actions.filterMap f).map cue.node).getD [] := by
  unfold Event.nodes
  rw [ofConditions?_eq]
  cases lastTiming? e.conditions <;> rfl

theorem Event.nodes_append (f : Action → Option π) (e : Event) (done : List Action) (a : Action) :
    Event.nodes f { e with actions := done ++ [a] } = Event.nodes f { e with actions := done } ++
      ((Cue.ofConditions? e.conditions).bind fun cue => (f a).map cue.node).toList := by
  rw [nodes_eq, nodes_eq]
  dsimp only
  cases Cue.ofConditions? e.conditions with
  | none => rfl
  | some cue => cases hf : f a <;> simp [hf]

def asked (who : Naming) (feeds : Nat → Bool) (f : Action → Option π) (l : List Event) (i : Nat) :
    List (Node π) :=
  if feeds i then (l.filter fun e => who e.owner = some (.vehicle, i)).flatMap (Event.nodes f) else []

def fedTo (who : Naming) (actor : String) (cue : Option Cue) (fed : Nat → List (Node π)) (payload : Option π) :
    Nat → List (Node π) :=
  match who actor with
  | some (.vehicle, i) => feedOne fed i (cue.bind fun cue => payload.map cue.node).toList
  | _ => fed

section Asked

variable {who : Naming} {feeds : Nat → Bool} {f : Action → Option π} {l : List Event} {i : Nat}

theorem feedOne_nil (fed : Nat → List (Node π)) (i : Nat) : feedOne fed i [] = fed := by
  funext j
  simp [feedOne]

theorem asked_append (e : Event) : asked who feeds f (l ++ [e]) i = asked who feeds f l i ++
    if feeds i ∧ who e.owner = some (.vehicle, i) then e.nodes f else [] := by
  unfold asked
  by_cases hf : feeds i <;> by_cases hw : who e.owner = some (.vehicle, i) <;> simp [hf, hw]

theorem asked_append_of_no_action {e : Event} (h : e.actions = []) :
    asked who feeds f (l ++ [e]) = asked who feeds f l := by
  funext i
  have hn : e.nodes f = [] := by
    unfold Event.nodes
    rw [h]
    split <;> rfl
  rw [asked_append, hn, ite_self, List.append_nil]

theorem fedTo_of_ne {actor : String} (h : ∀ i, who actor ≠ some (.vehicle, i)) (cue : Option Cue)
    (fed : Nat → List (Node π)) (payload : Option π) : fedTo who actor cue fed payload = fed := by
  unfold fedTo
  split
  next i hi => exact (h i hi).elim
  next => rfl

theorem fedTo_none (actor : String) (cue : Option Cue) (fed : Nat → List (Node π)) :
    fedTo who actor cue fed none = fed := by
  unfold fedTo
  split
  · cases cue <;> exact feedOne_nil _ _
  · rfl

theorem fedTo_no_cue (actor : String) (fed : Nat → List (Node π)) (payload : Option π) :
    fedTo who actor none fed payload = fed := by
  unfold fedTo
  split
  · exact feedOne_nil _ _
  · rfl

theorem asked_append_action (past : List Event) (e : Event) (done : List Action) {a : Action} {b : Bool}
    {payload : Option π} (hgate : payload = if b then f a else none)
    (hb : ∀ i, who e.owner = some (.vehicle, i) → feeds i = b) :
    asked who feeds f (past ++ [{ e with actions := done ++ [a] }]) =
      fedTo who e.owner (Cue.ofConditions? e.conditions) (asked who feeds f (past ++ [{ e with actions := done }]))
        payload := by
  have hnodes := Event.nodes_append f e done a
  funext j
  -- the vehicle the owner is gets one node more, all others stay
  by_cases hi : ∃ i, who e.owner = some (.vehicle, i)
  · obtain ⟨i, hi⟩ := hi
    rw [asked_append, hnodes]
    simp only [fedTo, feedOne, hi]
    by_cases hj : j = i
    · subst hj
      rw [if_pos rfl, asked_append, hgate, hb j hi]
      cases b
      · cases Cue.ofConditions? e.conditions <;> simp
      · simp [hi]
    · rw [if_neg hj, asked_append]
      simp [hi, Ne.symm hj]
  · have hj : who e.owner ≠ some (.vehicle, j) := fun hj => hi ⟨j, hj⟩
    rw [fedTo_of_ne fun i hk => hi ⟨i, hk⟩, asked_append, asked_append]
    simp [hj]

theorem asked_append_inert (past : List Event) (e : Event) (done : List Action) {a : Action} (ha : f a = none) :
    asked who feeds f (past ++ [{ e with actions := done ++ [a] }]) =
      asked who feeds f (past ++ [{ e with actions := done }]) := by
  have hnodes : Event.nodes f { e with actions := done ++ [a] } = Event.nodes f { e with actions := done } := by
    simp [Event.nodes, ha]
  funext i
  rw [asked_append, asked_append, hnodes]

end Asked

structure Stage.Moving (ramps : Nat → List (Node Ramp)) (speeds : Nat → List (Node Speed)) (s : Stage) : Prop where
  ramps : Held s.homes s.counters.ramps s.timelines.ramps ramps
  speeds : ∀ i, (s.timelines.speeds.get? (toString i)).getD (.empty (toString i)) =
    (Timeline.empty (toString i)).addAll (speeds i)

theorem Stage.homes_modify {s : Stage} (h : s.cast.WellFormed) (name : String) (f : Entity → Entity) (i : Nat) :
    { s with cast := s.cast.modify name f }.homes i =
      if s.cast.who? name = some (.vehicle, i) then (s.cast.vehicles.get? i).map fun v => (f v).rampTimeline
      else s.homes i := by
  have hm : (s.cast.modify name f).vehicles.get? i = _ := h.get?_modify name f .vehicle i
  rw [homes, hm]
  split
  · exact Option.map_map _ _ _
  · rfl

namespace Stage.Moving

variable {ramps : Nat → List (Node Ramp)} {speeds : Nat → List (Node Speed)} {s t : Stage}

theorem congr (h : s.Moving ramps speeds) (hhomes : t.homes = s.homes)
    (hcount : t.counters.ramps = s.counters.ramps)
    (hramps : t.timelines.ramps = s.timelines.ramps) (hspeeds : t.timelines.speeds = s.timelines.speeds) :
    t.Moving ramps speeds := by
  constructor
  case ramps =>
    rw [hhomes, hcount, hramps]
    exact h.ramps
  case speeds =>
    rw [hspeeds]
    exact h.speeds

section Vehicle

variable {entity : Entity} {name : String}

theorem homes_fedStage (hc : s.cast.WellFormed) (hw : s.cast.who? name = some (.vehicle, entity.id))
    (hget : s.cast.vehicles.get? entity.id = some entity) (g : Feeding) :
    (fedStage s name g).homes = fun j => if j = entity.id then some g.entity.rampTimeline else s.homes j := by
  funext j
  refine (homes_modify hc name _ j).trans ?_
  rw [hw]
  by_cases hj : j = entity.id
  · simp [hj, hget]
  · simp [hj, Ne.symm hj]

theorem homes_fedStage_of_eq (hc : s.cast.WellFormed) (hw : s.cast.who? name = some (.vehicle, entity.id))
    (hget : s.cast.vehicles.get? entity.id = some entity) {g : Feeding}
    (hg : g.entity.rampTimeline = entity.rampTimeline) : (fedStage s name g).homes = s.homes := by
  rw [homes_fedStage hc hw hget, hg]
  funext j
  split
  next hj => rw [hj, homes, hget, Option.map_some]
  next => rfl

theorem addRamp (h : s.Moving ramps speeds) (hc : s.cast.WellFormed)
    (hw : s.cast.who? name = some (.vehicle, entity.id)) (hget : s.cast.vehicles.get? entity.id = some entity)
    (cue : Cue) (r : Ramp) :
    (fedStage s name (Feeding.addRamp ⟨s.timelines, s.counters, entity⟩ cue r).2).Moving
      (feedOne ramps entity.id [cue.node r]) speeds := by
  have hhome : s.homes entity.id = some entity.rampTimeline := by rw [homes, hget, Option.map_some]
  have hown := h.ramps.own?_home hhome
  cases hid : entity.rampTimeline with
  | some id =>
    rw [hid] at hown hhome
    have hself : Timelines.own? entity.rampTimeline = some id := by rw [hid, hown]
    rw [Feeding.addRamp_of_own hself]
    constructor
    case ramps =>
      rw [homes_fedStage_of_eq hc hw hget rfl]
      exact h.ramps.store hhome cue r
    case speeds => exact h.speeds
  | none =>
    rw [hid] at hown hhome
    rw [Feeding.addRamp_of_none (by rw [hid, hown])]
    constructor
    case ramps =>
      rw [homes_fedStage hc hw hget]
      exact h.ramps.claim hhome cue r
    case speeds => exact h.speeds

theorem addSpeed (h : s.Moving ramps speeds) (hc : s.cast.WellFormed)
    (hw : s.cast.who? name = some (.vehicle, entity.id)) (hget : s.cast.vehicles.get? entity.id = some entity)
    (cue : Cue) (v : Speed) :
    (fedStage s name (Feeding.addSpeed ⟨s.timelines, s.counters, entity⟩ cue v).2).Moving
      ramps (feedOne speeds entity.id [cue.node v]) := by
  rw [Feeding.addSpeed_eq]
  constructor
  case ramps =>
    rw [homes_fedStage_of_eq hc hw hget rfl]
    exact h.ramps
  case speeds =>
    intro j
    simp only [fedStage, feedOne]
    split
    next hj =>
      rw [hj, Timelines.get?_store, Option.getD_some, h.speeds, Timeline.addAll_append]
    next hj =>
      rw [Timelines.get?_store_of_ne fun hk => hj (toString_injective hk)]
      exact h.speeds j

theorem addMerge (h : s.Moving ramps speeds) (hc : s.cast.WellFormed)
    (hw : s.cast.who? name = some (.vehicle, entity.id)) (hget : s.cast.vehicles.get? entity.id = some entity)
    (cue : Cue) (m : Merge) :
    (fedStage s name (Feeding.addMerge ⟨s.timelines, s.counters, entity⟩ cue m).2).Moving ramps speeds := by
  obtain ⟨hramps, hspeeds, -, hcount, hentity⟩ := Feeding.addMerge_frame ⟨s.timelines, s.counters, entity⟩ cue m
  exact h.congr (homes_fedStage_of_eq hc hw hget hentity) hcount hramps hspeeds

end Vehicle

theorem fed (h : s.Moving ramps speeds) (hc : s.cast.WellFormed) {actor : String} {cue : Cue} {f : Feed}
    (hf : s.Fed actor cue f t) :
    t.Moving (fedTo s.cast.who? actor (some cue) ramps f.ramp?) (fedTo s.cast.who? actor (some cue) speeds f.speed?) := by
  have hvehicle {v : Entity} (hfind : s.cast.find? actor = some v) (hk : v.kind = .vehicle) :
      s.cast.who? actor = some (.vehicle, v.id) ∧ s.cast.vehicles.get? v.id = some v := by
    have hget := hc.get?_of_find? hfind
    rw [hk] at hget
    exact ⟨by rw [Cast.who?, hfind, Option.map_some, hk], hget⟩
  -- nobody but vehicles has ramps and speeds
  have hother (hk : ∀ e, s.cast.find? actor = some e → e.kind ≠ .vehicle) {π : Type} (fed : Nat → List (Node π))
      (o : Option π) : fedTo s.cast.who? actor (some cue) fed o = fed := by
    apply fedTo_of_ne
    intro i hi
    obtain ⟨e, he, heq⟩ := Option.map_eq_some_iff.1 hi
    exact hk e he (Prod.mk.inj heq).1
  cases hf with
  | unmoved hv _ =>
    rw [hother hv, hother hv]
    exact h
  | ramp hfind hk rate stopKind stopValue =>
    obtain ⟨hw, hget⟩ := hvehicle hfind hk
    simp only [fedTo, hw, Option.bind_some, Feed.ramp?, Feed.speed?, Option.map_none, Option.toList_none, feedOne_nil]
    exact h.addRamp hc hw hget cue _
  | merge hfind hk target offset duration =>
    obtain ⟨hw, hget⟩ := hvehicle hfind hk
    simp only [fedTo, hw, Option.bind_some, Feed.ramp?, Feed.speed?, Option.map_none, Option.toList_none, feedOne_nil]
    exact h.addMerge hc hw hget cue _
  | speed hfind hk target =>
    obtain ⟨hw, hget⟩ := hvehicle hfind hk
    simp only [fedTo, hw, Option.bind_some, Feed.ramp?, Feed.speed?, Option.map_none, Option.toList_none, feedOne_nil]
    exact h.addSpeed hc hw hget cue _
  | walk hfind hk target _ =>
    have hv : ∀ e, s.cast.find? actor = some e → e.kind ≠ .vehicle := by
      intro e he
      cases hfind.symm.trans he
      simp [hk]
    rw [hother hv, hother hv, Feeding.addWalk_eq, fedStage, Cast.modify_find? hfind]
    exact { h with }

end Stage.Moving

structure Stage.SameMotion (s t : Stage) : Prop where
  cast : t.cast.WellFormed
  named : t.cast.who? = s.cast.who?
  vehicles : ∀ i, (t.cast.vehicles.get? i).map (fun v => (v.rampTimeline, v.behavior)) =
    (s.cast.vehicles.get? i).map (fun v => (v.rampTimeline, v.behavior))
  count : t.counters.ramps = s.counters.ramps
  timelines : t.timelines = s.timelines

namespace Stage.SameMotion

variable {s t : Stage}

protected theorem refl (h : s.cast.WellFormed) : s.SameMotion s :=
  ⟨h, rfl, fun _ => rfl, rfl, rfl⟩

theorem moving (h : s.SameMotion t) {ramps : Nat → List (Node Ramp)} {speeds : Nat → List (Node Speed)}
    (hs : s.Moving ramps speeds) : t.Moving ramps speeds := by
  have hhomes : t.homes = s.homes := by
    funext i
    have hv := congrArg (Option.map Prod.fst) (h.vehicles i)
    rw [Option.map_map, Option.map_map] at hv
    exact hv
  exact hs.congr hhomes h.count (by rw [h.timelines]) (by rw [h.timelines])

theorem modify (h : s.SameMotion t) (name : String) {f : Entity → Entity}
    (hid : ∀ e, (f e).id = e.id ∧ (f e).kind = e.kind)
    (hmove : ∀ e, e.kind = .vehicle → (f e).rampTimeline = e.rampTimeline ∧ (f e).behavior = e.behavior) :
    s.SameMotion { t with cast := t.cast.modify name f } := by
  refine ⟨h.cast.modify fun e _ => hid e, ?_, fun i => ?_, h.count, h.timelines⟩
  · rw [← h.named]
    exact funext fun other => Cast.who?_modify h.cast (fun e _ => hid e) other
  · rw [← h.vehicles i]
    have hget : (t.cast.modify name f).vehicles.get? i = _ := h.cast.get?_modify name f .vehicle i
    rw [hget]
    split
    · cases hv : (t.cast.ofKind .vehicle).get? i with
      | none =>
        have hv' : t.cast.vehicles.get? i = none := hv
        rw [hv']
        rfl
      | some v =>
        have hv' : t.cast.vehicles.get? i = some v := hv
        obtain ⟨hr, hb⟩ := hmove v (h.cast.kind_eq _ _ _ hv)
        rw [hv', Option.map_some, Option.map_some, Option.map_some, hr, hb]
    · rfl

theorem attached (h : s.cast.WellFormed) {owner : String} {plan : RoutePlan} {route : Option Nat}
    (ha : s.Attached owner plan route t) : s.SameMotion t := by
  cases ha with
  | refused j _ => exact { SameMotion.refl h with }
  | granted _ _ _ =>
    have hmodified := (SameMotion.refl h).modify owner (f := fun e => { e with route := some s.counters.routes })
      (fun _ => ⟨rfl, rfl⟩) fun _ _ => ⟨rfl, rfl⟩
    exact { hmodified with }

theorem stored (h : s.cast.WellFormed) {event : Event} (hs : s.Stored event t) : s.SameMotion t := by
  cases hs with
  | ego _ _ => exact { SameMotion.refl h with }
  | stray _ _ => exact { SameMotion.refl h with }
  | listed _ _ =>
    have hmodified := (SameMotion.refl h).modify event.owner (f := Staging.withEvent s.counters.events)
      (fun e => ⟨Staging.withEvent_id _ e, Staging.withEvent_kind _ e⟩) fun e he => by
        unfold Staging.withEvent
        rw [he]
        exact ⟨rfl, rfl⟩
    exact { hmodified with }

end Stage.SameMotion

structure Stage.Timed (who : Naming) (feeds : Nat → Bool) (past : List Event) (s : Stage) : Prop where
  cast : s.cast.WellFormed
  named : s.cast.who? = who
  behaves : ∀ i v, s.cast.vehicles.get? i = some v → v.behavior.feedsTimelines = feeds i
  moving : s.Moving (asked who feeds Action.ramp? past) (asked who feeds Action.speed? past)

namespace Stage.Timed

variable {who : Naming} {feeds : Nat → Bool} {past : List Event} {s t : Stage}

theorem sameMotion (h : s.Timed who feeds past) (hst : s.SameMotion t) : t.Timed who feeds past where
  cast := hst.cast
  named := hst.named.trans h.named
  behaves := by
    intro i v hv
    have hv' := hst.vehicles i
    rw [hv, Option.map_some] at hv'
    obtain ⟨v', hget, heq⟩ := Option.map_eq_some_iff.1 hv'.symm
    rw [← (Prod.mk.inj heq).2]
    exact h.behaves i v' hget
  moving := hst.moving h.moving

theorem feeds_of_actor (h : s.Timed who feeds past) {actor : String} {i : Nat}
    (hw : who actor = some (.vehicle, i)) :
    feeds i = (s.cast.behaviorOf actor).feedsTimelines := by
  rw [← h.named] at hw
  obtain ⟨v, hv, heq⟩ := Option.map_eq_some_iff.1 hw
  obtain ⟨hkind, hid⟩ := Prod.mk.inj heq
  have hget := h.cast.get?_of_find? hv
  rw [hkind, hid] at hget
  rw [Cast.behaviorOf, hv, ← h.behaves i v hget]
  rfl

end Stage.Timed

namespace Staging

variable (who : Naming) (feeds : Nat → Bool)

theorem timed_walks : Walks (fun past s => s.Timed who feeds past) fun past e done s =>
    s.Timed who feeds (past ++ [{ e with actions := done }]) where
  reads := fun _ s _ hs => hs.sameMotion { Stage.SameMotion.refl hs.cast with }
  readsOn := fun _ _ _ s _ hs => hs.sameMotion { Stage.SameMotion.refl hs.cast with }
  begins := by
    intro past e s hs
    refine ⟨hs.cast, hs.named, hs.behaves, ?_⟩
    rw [asked_append_of_no_action rfl, asked_append_of_no_action rfl]
    exact hs.moving
  reroutes := by
    intro past e done s a plan route t hs _ ha
    obtain ⟨hcast, hnamed, hbehaves, hmoving⟩ := hs.sameMotion (.attached hs.cast ha)
    refine ⟨hcast, hnamed, hbehaves, ?_⟩
    rw [asked_append_inert past e done rfl, asked_append_inert past e done rfl]
    exact hmoving
  moves := by
    intro past e done s r t hs hr _ hmoved
    have hfeeds : ∀ i, who e.owner = some (.vehicle, i) → feeds i = (s.cast.behaviorOf e.owner).feedsTimelines :=
      fun i hi => hs.feeds_of_actor hi
    have hramps := asked_append_action past e done hr.feeds.ramp hfeeds
    have hspeeds := asked_append_action past e done hr.feeds.speed hfeeds
    unfold Stage.Moved at hmoved
    split at hmoved
    next f cue hf hcue =>
      have halike := hmoved.alike
      refine ⟨halike.wellFormed hs.cast, ?_, fun i v hv => ?_, ?_⟩
      · rw [← hs.named]
        exact funext fun name => (halike.who? name).symm
      · have hv' : (t.cast.ofKind .vehicle).get? i = some v := hv
        obtain ⟨v', hget, hp⟩ := halike.get? hv'
        rw [← Entity.behavior_of_plain hp]
        exact hs.behaves i v' hget
      · have hfed := hs.moving.fed hs.cast hmoved
        rw [hs.named] at hfed
        rw [hramps, hspeeds, hcue, hf]
        exact hfed
    next hnone =>
      subst hmoved
      refine ⟨hs.cast, hs.named, hs.behaves, ?_⟩
      rw [hramps, hspeeds]
      cases hf : r.feed with
      | none =>
        rw [Option.bind_none, Option.bind_none, fedTo_none, fedTo_none]
        exact hs.moving
      | some f =>
        have hcue : Cue.ofConditions? e.conditions = none :=
          Option.eq_none_iff_forall_ne_some.2 fun cue hcue => hnone f cue hf hcue
        rw [hcue, fedTo_no_cue, fedTo_no_cue]
        exact hs.moving
  drops := by
    intro past e s hs
    refine ⟨hs.cast, hs.named, hs.behaves, ?_⟩
    have hmoving := hs.moving
    rw [asked_append_of_no_action rfl, asked_append_of_no_action rfl] at hmoving
    exact hmoving
  keeps := fun _ _ _ _ _ hs _ hstored => hs.sameMotion (.stored hs.cast hstored)

end Staging

section Runs

variable {sources : Sources} {map : RoadMap} {root : Element} {sections : Sections}

theorem Stage.Timed.of_unplayed {s : Stage} (h : s.Unplayed) :
    s.Timed s.cast.who? (fun i => (s.cast.vehicles.get? i).any (·.behavior.feedsTimelines)) [] := by
  have hasked {π : Type} (who : Naming) (feeds : Nat → Bool) (f : Action → Option π) :
      asked who feeds f [] = fun _ => [] := by
    funext i
    simp [asked]
  refine ⟨h.cast, rfl, fun i v hv => by rw [hv]; rfl, ?_⟩
  rw [hasked, hasked]
  constructor
  case ramps =>
    rw [h.ramps, h.timelines]
    refine .start (fun i id hid => ?_) (KeyMap.get?_insert_self _ _ _) fun id hne => ?_
    · obtain ⟨v, hv, rfl⟩ := Option.map_eq_some_iff.1 hid
      exact (h.idle .vehicle i v hv).ramps
    · exact KeyMap.get?_insert_of_ne hne _ _
  case speeds =>
    intro i
    rw [h.timelines]
    rfl

theorem told_timed (h : Sections.ofRoot root = .ok sections) :
    ∃ feeds, (told sources map root).2.Timed (told sources map root).2.cast.who? feeds
      (keptEvents sources map root) := by
  have hwalk := (Staging.timed_walks _ _).told h (.of_unplayed (openStage_unplayed sources map root sections))
  rw [← hwalk.named] at hwalk
  exact ⟨_, hwalk⟩

end Runs

def Scene.asks (s : Scene) (v : Entity) (f : Action → Option π) : List (Node π) :=
  (v.events.filterMap s.events.get?).flatMap (Event.nodes f)

open References

section Scenes

variable {f : Action → Option π}

theorem timing?_pointTest (table : ActionTable) (t : Test) : (pointTest table t).timing? = t.timing? := by
  cases t <;> rfl

theorem lastTiming?_pointEvent (table : ActionTable) (e : Event) :
    lastTiming? (pointEvent table e).conditions = lastTiming? e.conditions := by
  simp only [pointEvent]
  induction e.conditions with
  | nil => rfl
  | cons c cs ih => simp only [List.map_cons, lastTiming?, ih, timing?_pointTest]

theorem filterMap_actions_finished {β : Type} {f : Action → Option β} (hf : ∀ a n, f { a with id := n } = f a)
    (table : ActionTable) (e : Event) :
    (pointEvent table (numberActions e)).actions.filterMap f = e.actions.filterMap f := by
  have hplaces : (pointEvent table (numberActions e)).actions.filterMap f =
      e.actions.zipIdx.filterMap fun p => f p.1 := by
    simp [pointEvent, numberActions, List.filterMap_map, hf]
  have hfst := congrArg (List.filterMap f) (List.zipIdx_map_fst 0 e.actions)
  rw [List.filterMap_map] at hfst
  exact hplaces.trans hfst

theorem nodes_finished (hf : ∀ a n, f { a with id := n } = f a) (table : ActionTable) (e : Event) :
    (pointEvent table (numberActions e)).nodes f = e.nodes f := by
  rw [Event.nodes, Event.nodes, lastTiming?_pointEvent, filterMap_actions_finished hf]
  rfl

theorem filterMap_findIdxs {α : Type} (p : α → Bool) (l : List α) :
    (l.findIdxs p).filterMap (l[·]?) = l.filter p := by
  induction l using List.reverseRecOn with
  | nil => rfl
  | append_singleton l a ih =>
    have hold : (l.findIdxs p).filterMap ((l ++ [a])[·]?) = (l.findIdxs p).filterMap (l[·]?) := by
      refine List.filterMap_congr fun n hn => List.getElem?_append_left ?_
      simpa using List.lt_add_of_mem_findIdxs n hn
    rw [List.findIdxs_append, List.filterMap_append, hold, ih, List.filter_append]
    by_cases hp : p a <;> simp [hp]

theorem map_listed {who : Naming} {kept : List Event} {s : Stage} (h : s.Filed who kept) {kind : EntityKind}
    (hkind : kind = .vehicle ∨ kind = .pedestrian) {i : Nat} {e : Entity}
    (he : (s.cast.ofKind kind).get? i = some e) {β : Type} {g : Event → β}
    (hg : ∀ table e n, g (pointEvent table (numberActions { e with id := n })) = g e) :
    (e.events.filterMap s.scene.withReferences.events.get?).map g =
      (kept.filter fun e => who e.owner = some (kind, i)).map g := by
  have hfree : (freeEvents who kept).filter (fun e => who e.owner = some (kind, i)) =
      kept.filter fun e => who e.owner = some (kind, i) := by
    rw [freeEvents, List.filter_filter]
    refine List.filter_congr fun e _ => ?_
    by_cases hw : who e.owner = some (kind, i)
    · rcases hkind with rfl | rfl <;> simp [hw, Event.ego?]
    · simp [hw]
  have hget (n : Nat) : (s.scene.withReferences.events.get? n).map g = ((freeEvents who kept)[n]?).map g := by
    have hevents : s.scene.withReferences.events.get? n =
        (finishEvents (enterEvents ∅ s.events.values) s.events).get? n := rfl
    rw [hevents, h.events, get?_finishEvents, Events.get?_numbered, Option.map_map, Option.map_map]
    exact congrArg (Option.map · _) (funext fun e => hg _ e n)
  have hlisted : e.events = (freeEvents who kept).findIdxs fun e => who e.owner = some (kind, i) := by
    rw [h.listed kind i e he]
    rcases hkind with rfl | rfl <;> rfl
  rw [hlisted, ← hfree, ← filterMap_findIdxs, List.map_filterMap, List.map_filterMap]
  simp only [hget]

theorem asks_of_filed {who : Naming} {kept : List Event} {s : Stage} (h : s.Filed who kept) {i : Nat} {v : Entity}
    (hv : s.cast.vehicles.get? i = some v) (hf : ∀ a n, f { a with id := n } = f a) :
    s.scene.withReferences.asks v f =
      (kept.filter fun e => who e.owner = some (.vehicle, i)).flatMap (Event.nodes f) := by
  have hnodes : ∀ table (e : Event) n,
      (pointEvent table (numberActions { e with id := n })).nodes f = e.nodes f := fun table e n =>
    nodes_finished hf table { e with id := n }
  have hv' : (s.cast.ofKind .vehicle).get? i = some v := hv
  rw [Scene.asks, List.flatMap_def, List.flatMap_def, map_listed h (.inl rfl) hv' hnodes]

/-- The timelines of a vehicle hold, in a scene, what its events ask for, if it listens to events. -/
structure Scene.MovesAsAsked (s : Scene) (v : Entity) : Prop where
  listening : v.behavior = .scripted ∨ v.behavior = .trajectory →
    (∃ id t, v.rampTimeline = some id ∧ s.timelines.ramps.get? id = some t ∧
      t.nodes = ((Timeline.empty id).addAll (s.asks v Action.ramp?)).nodes) ∧
    ((s.timelines.speeds.get? (toString v.id)).map (·.nodes)).getD [] =
      ((Timeline.empty (toString v.id)).addAll (s.asks v Action.speed?)).nodes
  autonomous : v.behavior = .traffic ∨ v.behavior = .arterial →
    (∃ id t, v.rampTimeline = some id ∧ s.timelines.ramps.get? id = some t ∧ t.nodes = []) ∧
    ((s.timelines.speeds.get? (toString v.id)).map (·.nodes)).getD [] = []

theorem asked_eq {who : Naming} {feeds : Nat → Bool} {kept : List Event} {s : Stage}
    (h : s.Filed who kept) {i : Nat} {v : Entity} (hv : s.cast.vehicles.get? i = some v)
    (hfeeds : v.behavior.feedsTimelines = feeds i) (hf : ∀ a n, f { a with id := n } = f a) :
    asked who feeds f kept i = if v.behavior.feedsTimelines then s.scene.withReferences.asks v f else [] := by
  rw [asked, ← hfeeds, asks_of_filed h hv hf]

theorem stage_movesAsAsked {sources : Sources} {map : RoadMap} {root : Element} {staged : Staged}
    {i : Nat} {v : Entity} (h : (stage sources root).run map = .ok staged)
    (hv : staged.scene.vehicles.get? i = some v) : staged.scene.MovesAsAsked v := by
  obtain ⟨sections, hroot, rfl⟩ := run_stage h
  have hfiled : (finalStage sources map root).Filed _ _ := finalStage_filed hroot
  obtain ⟨feeds, htimed⟩ : ∃ feeds, (told sources map root).2.Timed _ feeds _ := told_timed hroot
  -- when the stories are over, vehicles without a timeline of their own get the shared one
  have hvehicles : (finalStage sources map root).cast.vehicles =
      (told sources map root).2.cast.vehicles.map Entity.withSharedTimelines := rfl
  have htimelines : (finalStage sources map root).timelines = (told sources map root).2.timelines := rfl
  have hwho : (finalStage sources map root).cast.who? = (told sources map root).2.cast.who? :=
    funext fun name => ((shareTimelines_sameEvents sources map _).cast.who? name).symm
  have hv' : (finalStage sources map root).cast.vehicles.get? i = some v := hv
  have hget := hv'
  rw [hvehicles, KeyMap.get?_map] at hget
  obtain ⟨v₀, hv₀, rfl⟩ := Option.map_eq_some_iff.1 hget
  have hid : v₀.withSharedTimelines.id = i := hfiled.cast.id_eq .vehicle i _ hv'
  have hfeeds := htimed.behaves i v₀ hv₀
  have hhome : (told sources map root).2.homes i = some v₀.rampTimeline := by
    rw [Stage.homes, hv₀, Option.map_some]
  have hramps := htimed.moving.ramps.get?_home hhome
  have hspeeds := htimed.moving.speeds i
  rw [← hwho, asked_eq hfiled hv' hfeeds fun _ _ => rfl, ← htimelines] at hramps hspeeds
  have hnodes : (((finalStage sources map root).timelines.speeds.get? (toString i)).map (·.nodes)).getD [] =
      (((finalStage sources map root).timelines.speeds.get? (toString i)).getD (.empty (toString i))).nodes := by
    cases (finalStage sources map root).timelines.speeds.get? (toString i) <;> rfl
  rw [hspeeds] at hnodes
  constructor
  case listening =>
    intro hb
    have hlistens : v₀.withSharedTimelines.behavior.feedsTimelines = true := by
      rcases hb with hb | hb <;> rw [hb] <;> rfl
    rw [hlistens, if_pos rfl] at hramps hnodes
    rw [hid]
    exact ⟨⟨_, _, rfl, hramps, rfl⟩, hnodes⟩
  case autonomous =>
    intro hb
    have hlistens : v₀.withSharedTimelines.behavior.feedsTimelines = false := by
      rcases hb with hb | hb <;> rw [hb] <;> rfl
    rw [hlistens] at hramps hnodes
    rw [hid]
    exact ⟨⟨_, _, rfl, hramps, rfl⟩, hnodes⟩

end Scenes

namespace Sample

def closingTest (value : String) : Element :=
  .of "Condition" [] [.of "ByEntityCondition" [] [.of "EntityCondition" [] [
    .of "RelativeDistanceCondition" [("entityRef", "Ego"), ("relativeDistanceType", "cartesianDistance"),
      ("rule", "lessThan"), ("value", value)] []]]]

def pursuit : Element :=
  .of "OpenSCENARIO" [] [
    .of "FileHeader" [] [],
    .of "Entities" [] [
      .of "ScenarioObject" [("name", "Ego")] [.of "Vehicle" [("name", "Sedan")] []],
      .of "ScenarioObject" [("name", "Car")] [.of "Vehicle" [("name", "Sedan")] []]],
    .of "Storyboard" [] [
      .of "Init" [] [],
      .of "Story" [] [.of "Act" [] [
        group "Car" [
          event [timeTest "5", closingTest "20", stateTest "brake"]
            [speedAction "close" "linear" "2" "10", speedAction "cruise" "step" "0" "9"],
          event [closingTest "8", timeTest "1"] [speedAction "brake" "linear" "3" "0"],
          event [stateTest "brake"] [speedAction "rest" "step" "0" "4"]]]]]]

end Sample

theorem pursuit_movesAsAsked : ∃ staged v, (stage .bare Sample.pursuit).run .blank = .ok staged ∧
    staged.scene.vehicles.get? 1 = some v ∧ staged.scene.MovesAsAsked v ∧ v.behavior = .scripted ∧
    staged.scene.asks v Action.ramp? =
      [⟨⟨20.0, .distance, .straight⟩, 1, ⟨2.0, .speed, 10.0⟩⟩, ⟨⟨1.0, .time, .none⟩, 1, ⟨3.0, .speed, 0.0⟩⟩] ∧
    staged.scene.asks v Action.speed? = [⟨⟨20.0, .distance, .straight⟩, 1, ⟨9.0⟩⟩] ∧
    (v.rampTimeline.bind staged.scene.timelines.ramps.get?).map (·.nodes) = some
      [⟨⟨1.0, .time, .none⟩, 1, ⟨3.0, .speed, 0.0⟩⟩, ⟨⟨20.0, .distance, .straight⟩, 1, ⟨2.0, .speed, 10.0⟩⟩] ∧
    (staged.scene.timelines.speeds.get? "1").map (·.nodes) = some [⟨⟨20.0, .distance, .straight⟩, 1, ⟨9.0⟩⟩] := by
  have h := @run_stage_of_isOk .bare .blank Sample.pursuit (by decide)
  have hv : ((finalStage .bare .blank Sample.pursuit).scene.withReferences.vehicles.get? 1).any (fun v =>
      v.behavior = .scripted ∧
      (finalStage .bare .blank Sample.pursuit).scene.withReferences.asks v Action.ramp? =
        [⟨⟨20.0, .distance, .straight⟩, 1, ⟨2.0, .speed, 10.0⟩⟩, ⟨⟨1.0, .time, .none⟩, 1, ⟨3.0, .speed, 0.0⟩⟩] ∧
      (finalStage .bare .blank Sample.pursuit).scene.withReferences.asks v Action.speed? =
        [⟨⟨20.0, .distance, .straight⟩, 1, ⟨9.0⟩⟩] ∧
      (v.rampTimeline.bind (finalStage .bare .blank Sample.pursuit).scene.withReferences.timelines.ramps.get?).map
        (·.nodes) = some
          [⟨⟨1.0, .time, .none⟩, 1, ⟨3.0, .speed, 0.0⟩⟩, ⟨⟨20.0, .distance, .straight⟩, 1, ⟨2.0, .speed, 10.0⟩⟩] ∧
      ((finalStage .bare .blank Sample.pursuit).scene.withReferences.timelines.speeds.get? "1").map (·.nodes) =
        some [⟨⟨20.0, .distance, .straight⟩, 1, ⟨9.0⟩⟩]) = true := by
    decide +kernel
  obtain ⟨v, hget, hv⟩ := (Option.any_eq_true _ _).1 hv
  exact ⟨_, v, h, hget, stage_movesAsAsked h hget, of_decide_eq_true hv⟩

end Scenography
