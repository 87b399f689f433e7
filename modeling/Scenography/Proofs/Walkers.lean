import Scenography.Proofs.Motion
/-!
What pedestrians walk: the steps that their events ask for. An event makes a pedestrian listen, so one
that does not at first misses its first event only.
-/

namespace Scenography

open Markup (Element)

def Entity.face (e : Entity) : Float :=
  (e.pose.map (·.angle)).getD 0.0

def Node.stride? (face : Float) (n : Node Speed) : Option (Node Walk) :=
  if Feed.isIdle n.cue n.payload.speed then none else some (n.cue.node ⟨n.payload.speed, face⟩)

def Event.strides (face : Float) (e : Event) : List (Node Walk) :=
  (e.nodes Action.speed?).filterMap (Node.stride? face)

def eventsOfWalker (who : Naming) (l : List Event) (i : Nat) : List Event :=
  l.filter fun e => who e.owner = some (.pedestrian, i)

def walked (who : Naming) (hears : Nat → Bool) (face : Nat → Float) (l : List Event) (i : Nat) : List (Node Walk) :=
  (if hears i then eventsOfWalker who l i else (eventsOfWalker who l i).tail).flatMap (Event.strides (face i))

section Walked

variable {who : Naming} {hears : Nat → Bool} {face : Nat → Float} {l : List Event} {i : Nat}

theorem Event.strides_of_no_action (face : Float) {e : Event} (h : e.actions = []) : e.strides face = [] := by
  unfold strides nodes
  rw [h]
  split <;> rfl

theorem Event.strides_append (face : Float) (e : Event) (done : List Action) (a : Action) :
    Event.strides face { e with actions := done ++ [a] } = Event.strides face { e with actions := done } ++
      (((Cue.ofConditions? e.conditions).bind fun cue => a.speed?.map cue.node).bind (Node.stride? face)).toList := by
  rw [strides, Event.nodes_append, List.filterMap_append]
  cases (Cue.ofConditions? e.conditions).bind fun cue => a.speed?.map cue.node with
  | none => rfl
  | some n => cases hn : Node.stride? face n <;> simp [strides, hn]

theorem eventsOfWalker_append (e : Event) : eventsOfWalker who (l ++ [e]) i =
    eventsOfWalker who l i ++ if who e.owner = some (.pedestrian, i) then [e] else [] := by
  simp [eventsOfWalker, List.filter_cons]

theorem walked_append (e : Event) : walked who hears face (l ++ [e]) i = walked who hears face l i ++
    if who e.owner = some (.pedestrian, i) ∧ (hears i = true ∨ eventsOfWalker who l i ≠ [])
      then e.strides (face i) else [] := by
  unfold walked
  rw [eventsOfWalker_append]
  by_cases hw : who e.owner = some (.pedestrian, i)
  · cases hears i with
    | true => simp [hw]
    | false => cases hl : eventsOfWalker who l i <;> simp [hw]
  · simp [hw]

theorem walked_append_of_no_action {e : Event} (h : e.actions = []) :
    walked who hears face (l ++ [e]) = walked who hears face l := by
  funext i
  rw [walked_append, e.strides_of_no_action _ h, ite_self, List.append_nil]

end Walked

theorem Entity.lasting_of_plain {e e' : Entity} (h : e.plain = e'.plain) :
    (e.kind, e.id, e.behavior, e.pose) = (e'.kind, e'.id, e'.behavior, e'.pose) := by
  have hpose : e.plain.pose = e'.plain.pose := by rw [h]
  have hpose' : e.pose = e'.pose := hpose
  rw [kind_of_plain h, id_of_plain h, behavior_of_plain h, hpose']

namespace Stage

def walkOf (s : Stage) (i : Nat) : Timeline Walk :=
  (s.timelines.walks.get? (toString i)).getD (.empty (toString i))

theorem Fed.walkOf {s t : Stage} {actor : String} {cue : Cue} {f : Feed} (hc : s.cast.WellFormed)
    (hf : s.Fed actor cue f t) {face : Nat → Float}
    (hfaces : ∀ i p, s.cast.pedestrians.get? i = some p → p.face = face i) (i : Nat) :
    t.walkOf i = (s.walkOf i).addAll (if s.cast.who? actor = some (.pedestrian, i) then
      ((f.speed?.map cue.node).bind (Node.stride? (face i))).toList else []) := by
  have hwho {v : Entity} (hfind : s.cast.find? actor = some v) : s.cast.who? actor = some (v.kind, v.id) := by
    rw [Cast.who?, hfind, Option.map_some]
  -- the walks of others than pedestrians stay
  have hother {v : Entity} (hfind : s.cast.find? actor = some v) (hkind : v.kind = .vehicle) {g : Feeding}
      (hwalks : g.timelines.walks = s.timelines.walks) (l : List (Node Walk)) :
      (s.fedStage actor g).walkOf i =
        (s.walkOf i).addAll (if s.cast.who? actor = some (.pedestrian, i) then l else []) := by
    rw [hwho hfind, hkind, if_neg (by simp), Stage.walkOf, Stage.fedStage, hwalks]
    rfl
  cases hf with
  | ramp hfind hkind _ _ _ => exact hother hfind hkind (Feeding.addRamp_frame _ cue _).2 _
  | merge hfind hkind _ _ _ => exact hother hfind hkind (Feeding.addMerge_frame _ cue _).2.2.1 _
  | speed hfind hkind _ => exact hother hfind hkind (by rw [Feeding.addSpeed_eq]) _
  | unmoved _ hwalker =>
    split
    next hw =>
      obtain ⟨p, hfind, heq⟩ := Option.map_eq_some_iff.1 hw
      have hnone : (f.speed?.map cue.node).bind (Node.stride? (face i)) = none := by
        cases f with
        | speed target =>
          have hidle := hwalker p target hfind (Prod.mk.inj heq).1 rfl
          simp [Feed.speed?, Node.stride?, Cue.node, hidle]
        | ramp _ _ _ => rfl
        | merge _ _ _ => rfl
      rw [hnone]
      rfl
    next => rfl
  | walk hfind hkind target hidle =>
    rename_i p
    have hp := hc.get?_of_find? hfind
    rw [hkind] at hp
    rw [hwho hfind, hkind, Feeding.addWalk_eq]
    unfold Stage.walkOf Stage.fedStage
    dsimp only
    by_cases hi : i = p.id
    · subst hi
      have hstride : Node.stride? (face p.id) (cue.node ⟨target⟩) = some (cue.node ⟨target, p.face⟩) := by
        rw [Node.stride?, hfaces p.id p hp, Cue.node, hidle, if_neg (by simp)]
      rw [Timelines.get?_store, if_pos rfl, Option.getD_some, Feed.speed?, Option.map_some, Option.bind_some, hstride]
      rfl
    · rw [Timelines.get?_store_of_ne fun heq => hi (toString_injective heq), if_neg (by simp [Ne.symm hi])]
      rfl

structure Strolling (who : Naming) (hears : Nat → Bool) (face : Nat → Float) (past asked : List Event)
    (s : Stage) : Prop where
  cast : s.cast.WellFormed
  named : s.cast.who? = who
  behaves : ∀ i p, s.cast.pedestrians.get? i = some p →
    (p.behavior.feedsTimelines = true ↔ hears i = true ∨ eventsOfWalker who past i ≠ [])
  faces : ∀ i p, s.cast.pedestrians.get? i = some p → p.face = face i
  walks : ∀ i, s.walkOf i = (Timeline.empty (toString i)).addAll (walked who hears face asked i)

namespace Strolling

variable {who : Naming} {hears : Nat → Bool} {face : Nat → Float} {past asked : List Event} {s t : Stage}

theorem of_unplayed (h : s.Unplayed) : s.Strolling s.cast.who?
    (fun i => (s.cast.pedestrians.get? i).any (·.behavior.feedsTimelines))
    (fun i => ((s.cast.pedestrians.get? i).map (·.face)).getD 0.0) [] [] where
  cast := h.cast
  named := rfl
  behaves := by
    intro i p hp
    simp [hp, eventsOfWalker]
  faces := by
    intro i p hp
    rw [hp]
    rfl
  walks := by
    intro i
    rw [walkOf, h.timelines]
    simp [walked, eventsOfWalker]
    rfl

theorem congr (h : s.Strolling who hears face past asked)
    (hsame : Cast.Same (fun e => (e.kind, e.id, e.behavior, e.pose)) s.cast t.cast)
    {asked' : List Event}
    (hwalks : ∀ i, t.walkOf i = (Timeline.empty (toString i)).addAll (walked who hears face asked' i)) :
    t.Strolling who hears face past asked' := by
  have hids : Cast.Same (fun e => (e.kind, e.id)) s.cast t.cast :=
    hsame.imp fun _ _ he => by simp_all
  have hget {i : Nat} {p : Entity} (hp : t.cast.pedestrians.get? i = some p) :
      ∃ p', s.cast.pedestrians.get? i = some p' ∧ p'.behavior = p.behavior ∧ p'.face = p.face := by
    have hp' : (t.cast.ofKind .pedestrian).get? i = some p := hp
    obtain ⟨p', hget, hview⟩ := hsame.get? hp'
    simp only [Prod.mk.injEq] at hview
    exact ⟨p', hget, hview.2.2.1, by rw [Entity.face, Entity.face, hview.2.2.2]⟩
  constructor
  case cast => exact hids.wellFormed h.cast
  case named => exact (funext fun name => (hids.who? name).symm).trans h.named
  case behaves =>
    intro i p hp
    obtain ⟨p', hp', hbehavior, -⟩ := hget hp
    rw [← hbehavior]
    exact h.behaves i p' hp'
  case faces =>
    intro i p hp
    obtain ⟨p', hp', -, hface⟩ := hget hp
    rw [← hface]
    exact h.faces i p' hp'
  case walks => exact hwalks

theorem attached (h : s.Strolling who hears face past asked) {owner : String} {plan : RoutePlan}
    {route : Option Nat} (ha : s.Attached owner plan route t) : t.Strolling who hears face past asked := by
  cases ha with
  | refused j _ => exact { h with }
  | granted _ _ _ => exact h.congr (.modify (f := fun e => { e with route := some s.counters.routes }) fun _ _ => rfl) h.walks

theorem stored (h : s.Strolling who hears face past asked) {event : Event} (hs : s.Stored event t) :
    t.Strolling who hears face (past ++ [event]) asked := by
  have hwho {e : Entity} (hfind : s.cast.find? event.owner = some e) : who event.owner = some (e.kind, e.id) := by
    rw [← h.named, Cast.who?, hfind, Option.map_some]
  have hother (hw : ∀ i, who event.owner ≠ some (.pedestrian, i)) (i : Nat) :
      eventsOfWalker who (past ++ [event]) i = eventsOfWalker who past i := by
    rw [eventsOfWalker_append, if_neg (hw i), List.append_nil]
  cases hs with
  | ego hfind hkind =>
    have hsame := hother fun i hi => by simp [hwho hfind, hkind] at hi
    exact { h with behaves := fun i p hp => by rw [hsame]; exact h.behaves i p hp }
  | stray hfind _ =>
    have hnobody : who event.owner = none := by rw [← h.named, Cast.who?, hfind, Option.map_none]
    have hsame := hother fun i hi => by simp [hnobody] at hi
    exact { h with behaves := fun i p hp => by rw [hsame]; exact h.behaves i p hp }
  | listed hfind hkind =>
    have hids : ∀ e, s.cast.find? event.owner = some e → (Staging.withEvent s.counters.events e).id = e.id ∧
        (Staging.withEvent s.counters.events e).kind = e.kind :=
      fun e _ => ⟨Staging.withEvent_id _ e, Staging.withEvent_kind _ e⟩
    have hget (i : Nat) := h.cast.get?_modify event.owner (Staging.withEvent s.counters.events) .pedestrian i
    have hpose (n : Nat) (e : Entity) : (Staging.withEvent n e).face = e.face := by
      unfold Staging.withEvent
      dsimp only
      split <;> rfl
    constructor
    case cast => exact h.cast.modify hids
    case named => exact (funext fun name => Cast.who?_modify h.cast hids name).trans h.named
    case behaves =>
      intro i p hp
      rw [eventsOfWalker_append]
      have hp' := (hget i).symm.trans hp
      rw [h.named] at hp'
      split at hp'
      next hw =>
        obtain ⟨p', hget, rfl⟩ := Option.map_eq_some_iff.1 hp'
        have hlistens : (Staging.withEvent s.counters.events p').behavior = .trajectory := by
          unfold Staging.withEvent
          rw [h.cast.kind_eq .pedestrian i p' hget]
        simp [hlistens, hw, Behavior.feedsTimelines]
      next hw =>
        rw [if_neg hw, List.append_nil]
        exact h.behaves i p hp'
    case faces =>
      intro i p hp
      have hp' := (hget i).symm.trans hp
      split at hp'
      · obtain ⟨p', hget, rfl⟩ := Option.map_eq_some_iff.1 hp'
        rw [hpose]
        exact h.faces i p' hget
      · exact h.faces i p hp'
    case walks => exact h.walks

theorem listens (h : s.Strolling who hears face past asked) {actor : String} {i : Nat}
    (hw : who actor = some (.pedestrian, i)) :
    (s.cast.behaviorOf actor).feedsTimelines = true ↔ hears i = true ∨ eventsOfWalker who past i ≠ [] := by
  rw [← h.named] at hw
  obtain ⟨p, hfind, heq⟩ := Option.map_eq_some_iff.1 hw
  obtain ⟨hkind, hid⟩ := Prod.mk.inj heq
  have hp := h.cast.get?_of_find? hfind
  rw [hkind, hid] at hp
  rw [Cast.behaviorOf, hfind]
  exact h.behaves i p hp

end Strolling

end Stage

namespace Staging

variable (who : Naming) (hears : Nat → Bool) (face : Nat → Float)

theorem strolling_walks : Walks (fun past s => s.Strolling who hears face past past) fun past e done s =>
    s.Strolling who hears face past (past ++ [{ e with actions := done }]) where
  reads := fun _ _ _ hs => { hs with }
  readsOn := fun _ _ _ _ _ hs => { hs with }
  begins := by
    intro past e s hs
    refine { hs with walks := ?_ }
    rw [walked_append_of_no_action rfl]
    exact hs.walks
  reroutes := by
    intro past e done s a plan route t hs _ ha
    have hattached := hs.attached ha
    refine { hattached with walks := fun i => ?_ }
    rw [hattached.walks, walked_append, walked_append, Event.strides_append]
    simp [Action.speed?]
  moves := by
    intro past e done s r t hs hr _ hmoved
    unfold Stage.Moved at hmoved
    split at hmoved
    next f cue hf hcue =>
      have hlistens := hr.gate f hf
      have hspeed : f.speed? = r.action.speed? := by
        have hgate := hr.feeds.speed
        rwa [hf, hlistens, if_pos rfl, Option.bind_some] at hgate
      refine hs.congr (hmoved.alike.same.imp fun _ _ => Entity.lasting_of_plain) fun i => ?_
      rw [hmoved.walkOf hs.cast hs.faces, hs.walks, hs.named, ← Timeline.addAll_append, walked_append, walked_append]
      by_cases hw : who e.owner = some (.pedestrian, i)
      · have hheard := (hs.listens hw).1 hlistens
        rw [if_pos hw, if_pos ⟨hw, hheard⟩, if_pos ⟨hw, hheard⟩, Event.strides_append, hcue, Option.bind_some, hspeed,
          List.append_assoc]
      · simp [hw]
    next hnone =>
      subst hmoved
      refine { hs with walks := fun i => ?_ }
      rw [hs.walks, walked_append, walked_append, Event.strides_append]
      split
      next hheard =>
        have hlistens := (hs.listens hheard.1).2 hheard.2
        have hstill : ((Cue.ofConditions? e.conditions).bind fun cue => r.action.speed?.map cue.node) = none := by
          cases hcue : Cue.ofConditions? e.conditions with
          | none => rfl
          | some cue =>
            have hfeed : r.feed = none := Option.eq_none_iff_forall_ne_some.2 fun f hf => hnone f cue hf hcue
            have hgate := hr.feeds.speed
            rw [hfeed, hlistens, if_pos rfl, Option.bind_none] at hgate
            rw [← hgate]
            rfl
        rw [hstill, Option.bind_none, Option.toList_none, List.append_nil]
      next => rfl
  drops := by
    intro past e s hs
    have hwalks := hs.walks
    rw [walked_append_of_no_action rfl] at hwalks
    exact { hs with walks := hwalks }
  keeps := fun _ _ _ _ _ hs _ hstored => hs.stored hstored

end Staging

section Runs

variable {sources : Sources} {map : RoadMap} {root : Element} {sections : Sections}

theorem told_strolling (h : Sections.ofRoot root = .ok sections) :
    ∃ face, (told sources map root).2.Strolling (told sources map root).2.cast.who?
      (fun i => ((openStage sources map root sections).cast.pedestrians.get? i).any (·.behavior.feedsTimelines)) face
      (keptEvents sources map root) (keptEvents sources map root) := by
  have hwalk := (Staging.strolling_walks _ _ _).told h
    (.of_unplayed (openStage_unplayed sources map root sections))
  rw [← hwalk.named] at hwalk
  exact ⟨_, hwalk⟩

end Runs

section Scenes

def Scene.eventsOf (s : Scene) (e : Entity) : List Event :=
  e.events.filterMap s.events.get?

theorem strides_finished (face : Float) (table : ActionTable) (e : Event) (n : Nat) :
    (References.pointEvent table (References.numberActions { e with id := n })).strides face = e.strides face := by
  rw [Event.strides, nodes_finished (fun _ _ => rfl)]
  rfl

/-- A pedestrian of a scene walks what its events ask for, all of them if it listened from the start. -/
theorem walk_eq {sources : Sources} {map : RoadMap} {root : Element} {sections : Sections}
    (h : Sections.ofRoot root = .ok sections) {i : Nat} {p : Entity}
    (hp : (finalStage sources map root).cast.pedestrians.get? i = some p) :
    (finalStage sources map root).walkOf i = (Timeline.empty (toString i)).addAll
      ((if ((openStage sources map root sections).cast.pedestrians.get? i).any (·.behavior.feedsTimelines) then
          (finalStage sources map root).scene.withReferences.eventsOf p
        else ((finalStage sources map root).scene.withReferences.eventsOf p).tail).flatMap (Event.strides p.face)) := by
  obtain ⟨face, htold⟩ : ∃ face, (told sources map root).2.Strolling _ _ face _ _ := told_strolling h
  have hfiled : (finalStage sources map root).Filed _ _ := finalStage_filed h
  have hwho : (finalStage sources map root).cast.who? = (told sources map root).2.cast.who? :=
    funext fun name => ((shareTimelines_sameEvents sources map _).cast.who? name).symm
  have hlisted := map_listed hfiled (.inr rfl) (show ((finalStage sources map root).cast.ofKind _).get? i = _ from hp)
    (strides_finished p.face)
  have hwalk : (finalStage sources map root).walkOf i = _ := htold.walks i
  rw [hwalk, walked, ← htold.faces i p hp, ← hwho, apply_ite (List.flatMap _), apply_ite (List.flatMap _),
    List.flatMap_def, List.flatMap_def, List.flatMap_def, List.flatMap_def, List.map_tail, List.map_tail, eventsOfWalker,
    Scene.eventsOf, hlisted]

end Scenes

end Scenography
