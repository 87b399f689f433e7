import Scenography.Proofs.Respelled.Requests
import Scenography.Staging.Story

namespace Scenography.Staging

open Markup (Element Spelling)

variable {K : Aside → Aside → Prop} {ps : List Parameter} {f : Spelling}

section Keeping

theorem attachRoute_agrees (owner : String) (plan : RoutePlan) :
    Agree K ps Eq (attachRoute owner plan) (attachRoute owner plan) := by
  unfold attachRoute
  split
  · exact .bind (.record _ _) fun _ => .pure rfl
  · refine .bind .getCast fun c => ?_
    split
    · exact .refuse rfl _ _ _ _
    · split
      · exact .refuse rfl _ _ _ _
      · refine .bind (.count _) fun id => .bind (.modifyEntity _ _) fun _ => .bind (.modify ?_) fun _ => .pure rfl
        rintro s _ ⟨journal, signals, weather, aside, declared⟩
        exact .mk journal signals weather aside declared

theorem withCount_agrees (overrides : KeyMap String String) (key : String) (c : Condition) :
    Agree K ps Eq (withCount overrides key c) (withCount overrides key c) := by
  unfold withCount
  split
  · exact .pure rfl
  · split
    · exact .pure rfl
    · exact .bind (.warn _ _ _ _) fun _ => .pure rfl

theorem withCounts_agrees (overrides : KeyMap String String) (actor event : String) (conditions : List Condition) :
    Agree K ps Eq (withCounts overrides actor event conditions) (withCounts overrides actor event conditions) :=
  .bind .getCast fun _ => .listMapM fun _ => withCount_agrees _ _ _

theorem feed_agrees (actor : String) (cue : Cue) (f : Feed) : Agree K ps Eq (feed actor cue f) (feed actor cue f) := by
  rintro sources map s _ ⟨journal, signals, weather, aside, declared⟩
  unfold AgreeFrom feed
  rw [exec_modifyGet, exec_modifyGet]
  dsimp only
  cases s.cast.find? actor with
  | none => exact ⟨rfl, .mk journal signals weather aside declared⟩
  | some entity => exact ⟨rfl, .mk journal signals weather aside declared⟩

theorem attachPlan_agrees (actor : String) (r : Request) :
    Agree K ps Eq (attachPlan actor r) (attachPlan actor r) := by
  unfold attachPlan
  split
  · exact .pure rfl
  · exact .bind (attachRoute_agrees _ _) fun _ => .pure rfl

theorem feedRequest_agrees (actor : String) (cue : Option Cue) (r : Request) :
    Agree K ps Eq (feedRequest actor cue r) (feedRequest actor cue r) := by
  unfold feedRequest
  split
  · exact .map (feed_agrees _ _ _)
  · exact .pure rfl

theorem storeEgoEvent_agrees (ego : Nat) (event : Event) :
    Agree K ps Eq (storeEgoEvent ego event) (storeEgoEvent ego event) := by
  refine .bind (.count _) fun id => .modify ?_
  rintro s _ ⟨journal, signals, weather, aside, declared⟩
  exact .mk journal signals weather aside declared

theorem storeFreeEvent_agrees (event : Event) : Agree K ps Eq (storeFreeEvent event) (storeFreeEvent event) := by
  have hstore (id : Nat) : Agree K ps Eq
      (modify fun s => { s with events := s.events.insert id { event with id } } : Staging Unit)
      (modify fun s => { s with events := s.events.insert id { event with id } }) := by
    apply Agree.modify
    rintro s _ ⟨journal, signals, weather, aside, declared⟩
    exact .mk journal signals weather aside declared
  unfold storeFreeEvent
  refine .bind (.count _) fun id => .bind .getCast fun c => ?_
  split
  · exact .bind (.modifyEntity _ _) fun _ => hstore id
  · exact .bind (.warn _ _ _ _) fun _ => hstore id

theorem storeEvent_agrees (event : Event) : Agree K ps Eq (storeEvent event) (storeEvent event) := by
  unfold storeEvent
  refine .bind .getCast fun c => ?_
  split
  · exact storeEgoEvent_agrees _ _
  · exact storeFreeEvent_agrees _

end Keeping

section Stories

variable (hf : f.Faithful ps) (e : Element)

include hf

theorem startConditions_agrees (actor : String) :
    Agree K ps Eq (startConditions actor (e.respell f)).run (startConditions actor e).run := by
  unfold startConditions
  rw [Element.child?_respell]
  cases e.child? "StartTrigger" with
  | some e => exact trigger_agrees hf _ _
  | none => exact .run_pure _

variable (hk : f.KeepsNames)

include hk

theorem action?_agrees (actor : String) (behavior : Behavior) (cue : Option Cue) :
    Agree K ps Eq (action? actor behavior cue (e.respell f)) (action? actor behavior cue e) := by
  unfold action?
  refine .bind (request?_agrees hf e hk _ _) fun r => ?_
  split
  · exact .bind (.record _ _) fun _ => .pure rfl
  · exact .pure rfl
  · exact .bind (attachPlan_agrees _ _) fun _ => .bind (feedRequest_agrees _ _ _) fun _ => .pure rfl

theorem eventActions_agrees (actor : String) (conditions : List Condition) :
    Agree K ps Eq (eventActions actor conditions (e.respell f)) (eventActions actor conditions e) := by
  unfold eventActions
  refine .bind .getCast fun c => ?_
  rw [Element.childrenNamed_respell, filterMap_map]
  exact .filterMap fun e => action?_agrees hf e hk _ _ _

theorem draft_agrees (overrides : KeyMap String String) (actor : String) :
    Agree K ps Eq (draft overrides actor (e.respell f)) (draft overrides actor e) := by
  unfold draft
  refine .bind (attr_agrees hf _ _) fun name => .bind (startConditions_agrees hf _ _) fun r => ?_
  split
  · exact .bind (.record _ _) fun _ => .pure rfl
  · refine .bind (withCounts_agrees _ _ _ _) fun conditions => .bind (eventActions_agrees hf _ hk _ _) fun actions => ?_
    split <;> exact .pure rfl

theorem event_agrees (overrides : KeyMap String String) (actor : String) :
    Agree K ps Eq (event overrides actor (e.respell f)) (event overrides actor e) := by
  unfold event
  refine .bind (draft_agrees hf _ hk _ _) fun d => ?_
  split
  · exact storeEvent_agrees _
  · exact .pure rfl

omit hk in
theorem actor_agrees : Agree K ps Eq (actor (e.respell f)) (actor e) := by
  unfold actor
  have hlast : (((e.respell f).child? "Actors").map (·.childrenNamed "EntityRef")).bind (·.getLast?) =
      (((e.child? "Actors").map (·.childrenNamed "EntityRef")).bind (·.getLast?)).map (·.respell f) := by
    rw [Element.child?_respell]
    cases e.child? "Actors" <;> simp
  rw [hlast]
  cases ((e.child? "Actors").map (·.childrenNamed "EntityRef")).bind (·.getLast?) with
  | some e => exact attr_agrees hf _ _
  | none => exact .pure rfl

omit hk in
theorem cataloguedManeuver?_agrees :
    Agree K ps Eq (cataloguedManeuver? (e.respell f)) (cataloguedManeuver? e) := by
  unfold cataloguedManeuver?
  refine .bind (attr_agrees hf _ _) fun name => .bind .read fun sources => ?_
  split
  · exact .pure rfl
  · exact .bind (.record _ _) fun _ => .pure rfl

omit hk in
theorem maneuvers_agrees :
    Agree K ps (List.Forall₂ fun m m' => m = m' ∨ m = m'.respell f) (maneuvers (e.respell f)) (maneuvers e) := by
  unfold maneuvers
  rw [Element.childrenNamed_respell, Element.childrenNamed_respell, filterMap_map]
  refine .bind (.filterMap fun e => cataloguedManeuver?_agrees hf e) fun listed => .pure ?_
  refine List.rel_append ?_ (List.forall₂_same.2 fun m _ => .inl rfl)
  exact List.forall₂_map_left_iff.2 (List.forall₂_same.2 fun m _ => .inr rfl)

theorem group_agrees (overrides : KeyMap String String) :
    Agree K ps Eq (group overrides (e.respell f)) (group overrides e) := by
  unfold group
  refine .bind (actor_agrees hf _) fun actor => .bind_of (maneuvers_agrees hf _) fun l l' hl => ?_
  have hevents : List.Forall₂ (fun e e' : Element => e = e' ∨ e = e'.respell f)
      (l.flatMap (·.childrenNamed "Event")) (l'.flatMap (·.childrenNamed "Event")) := by
    refine List.rel_flatMap hl ?_
    rintro m m' (rfl | rfl)
    · exact List.forall₂_same.2 fun e _ => .inl rfl
    · dsimp only
      rw [Element.childrenNamed_respell]
      exact List.forall₂_map_left_iff.2 (List.forall₂_same.2 fun e _ => .inr rfl)
  refine .forM hevents ?_
  rintro e e' (rfl | rfl)
  · exact .self fun K => event_agrees hf _ hk _ _
  · exact event_agrees hf _ hk _ _

omit e in
theorem story_alike {e e' : Element} (h : Element.Alike f e e') (hparameters : storyParameters e = storyParameters e') :
    Agree K ps Eq (story e) (story e') := by
  unfold story
  rw [hparameters]
  have hgroups := List.rel_flatMap (h.childrenNamed "Act") fun _ _ hact => hact.childrenNamed "ManeuverGroup"
  refine .bind (.map (attr_alike hf _ h)) fun _ => .forM hgroups fun a b hab => ?_
  apply Agree.alike _ hab
  exact fun _ e => group_agrees hf e hk _

end Stories

end Scenography.Staging
