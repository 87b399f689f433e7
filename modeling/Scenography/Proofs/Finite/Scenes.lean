import Scenography.Proofs.Finite.Stories
import Scenography.Proofs.References

namespace Scenography

open References

section Parts

variable {α : Type} [Measured α]

theorem allFinite_entity {e : Entity} : AllFinite e ↔
    e.Steady ∧ ∀ p, e.pose = some p → p.angle.isFinite = true := by
  have hentity : AllFinite e ↔
      AllFinite (e.id, e.box, e.pose, e.route, [e.startSpeed, e.maxSpeed], e.events, e.profile) := Iff.rfl
  simp only [hentity, allFinite_pair, allFinite_count, allFinite_optionCount, allFinite_counts, true_and]
  constructor
  · rintro ⟨hbox, hpose, hspeeds, hprofile⟩
    have hpose' (p : Pose) (hp : e.pose = some p) := allFinite_pose.1 (allFinite_option.1 hpose p hp)
    exact ⟨⟨hbox, hspeeds, hprofile, fun p hp => (hpose' p hp).1⟩, fun p hp => (hpose' p hp).2⟩
  · rintro ⟨he, hangles⟩
    exact ⟨he.box, allFinite_option.2 fun p hp => allFinite_pose.2 ⟨he.placed p hp, hangles p hp⟩, he.speeds, he.profile⟩

def Action.EndsInTime (a : Action) : Prop :=
  ∀ seconds, a.ending = .time seconds → seconds.isFinite = true

theorem allFinite_action {a : Action} : AllFinite a ↔ a.Steady ∧ a.EndsInTime := by
  have haction : AllFinite a ↔ AllFinite (a.id, a.effect, a.ending) := Iff.rfl
  have heffect : AllFinite a.effect := by
    cases a.effect with
    | reroute route kind => exact allFinite_optionCount route
    | _ => exact fun _ h => absurd h List.not_mem_nil
  simp only [haction, allFinite_pair, allFinite_optionCount, heffect, true_and]
  unfold Action.Steady Action.EndsInTime
  cases hending : a.ending with
  | none =>
    have hnone : AllFinite Ending.none := fun _ h => absurd h List.not_mem_nil
    simp [hnone]
  | time seconds =>
    have htime : AllFinite (Ending.time seconds) ↔ seconds.isFinite = true := allFinite_double
    simp [htime]
  | speed target =>
    have hspeed : AllFinite (Ending.speed target) ↔ AllFinite target := Iff.rfl
    simp [hspeed]

theorem allFinite_event {e : Event} : AllFinite e ↔ e.Steady ∧ ∀ a ∈ e.actions, a.EndsInTime := by
  have hevent : AllFinite e ↔ AllFinite (e.id, e.conditions, e.actions) := Iff.rfl
  simp only [hevent, allFinite_pair, allFinite_count, true_and, allFinite_list (l := e.actions), allFinite_action]
  constructor
  · rintro ⟨hconditions, hactions⟩
    exact ⟨⟨hconditions, fun a ha => (hactions a ha).1⟩, fun a ha => (hactions a ha).2⟩
  · rintro ⟨he, htimes⟩
    exact ⟨he.conditions, fun a ha => ⟨he.actions a ha, htimes a ha⟩⟩

theorem mem_values {κ α : Type} [Key κ] [DecidableEq κ] {m : KeyMap κ α} {a : α} :
    a ∈ m.values ↔ ∃ k, m.get? k = some a := by
  simp only [KeyMap.values, List.mem_map, Prod.exists, exists_eq_right, KeyMap.get?_eq_some_iff]

theorem allFinite_values {m : KeyMap Nat α} : AllFinite m ↔ ∀ a ∈ m.values, AllFinite a := by
  simp only [allFinite_keyMap, allFinite_count, true_and, KeyMap.values, List.forall_mem_map]

theorem allFinite_allEgoEvents {s : Scene} : AllFinite s.egoEvents ↔ ∀ e ∈ s.allEgoEvents, AllFinite e := by
  simp only [allFinite_values, Scene.allEgoEvents, List.mem_flatMap]
  exact ⟨fun h e ⟨shelf, hshelf, he⟩ => h shelf hshelf e he, fun h shelf hshelf e he => h e ⟨shelf, hshelf, he⟩⟩

theorem allFinite_scene {s : Scene} : AllFinite s ↔ (∀ e ∈ s.entities, AllFinite e) ∧ AllFinite s.routes ∧
    AllFinite s.signals ∧ AllFinite s.timelines ∧ (∀ e ∈ s.events.values ++ s.allEgoEvents, AllFinite e) ∧
    AllFinite s.plannerEvents ∧ AllFinite s.weather := by
  have hscene : AllFinite s ↔ AllFinite ([s.egos, s.vehicles, s.pedestrians, s.obstacles], s.routes, s.signals,
      s.timelines, s.events, [s.egoEvents, s.plannerEvents], s.weather) := Iff.rfl
  simp only [hscene, allFinite_pair, allFinite_list, List.forall_mem_cons, List.not_mem_nil, false_imp_iff, implies_true,
    and_true, allFinite_allEgoEvents, List.forall_mem_append, Scene.entities, and_assoc]
  rw [allFinite_values, allFinite_values, allFinite_values, allFinite_values, allFinite_values (m := s.events)]

def Scene.EndsInTime (s : Scene) : Prop :=
  ∀ e ∈ s.events.values ++ s.allEgoEvents, ∀ a ∈ e.actions, a.EndsInTime

def Scene.FacesFinite (s : Scene) : Prop :=
  ∀ e ∈ s.entities, ∀ p, e.pose = some p → p.angle.isFinite = true

theorem Scene.mem_entities {s : Scene} {e : Entity} : e ∈ s.entities ↔ ∃ kind i, (s.ofKind kind).get? i = some e := by
  simp only [entities, List.mem_append, mem_values]
  constructor
  · rintro (((h | h) | h) | h)
    · exact ⟨.ego, h⟩
    · exact ⟨.vehicle, h⟩
    · exact ⟨.pedestrian, h⟩
    · exact ⟨.obstacle, h⟩
  · rintro ⟨kind, h⟩
    cases kind with
    | ego => exact .inl (.inl (.inl h))
    | vehicle => exact .inl (.inl (.inr h))
    | pedestrian => exact .inl (.inr h)
    | obstacle => exact .inr h

end Parts

section Finished

def Event.Finished (e e' : Event) : Prop :=
  ∃ n rename, e' = { e with id := n }.renamed rename

variable {e e' : Event}

theorem Test.allFinite_renamed (rename : String → String) (test : Test) :
    AllFinite (test.renamed rename) ↔ AllFinite test := by
  cases test <;> rfl

theorem Event.Finished.conditions (h : e.Finished e') (hfinite : AllFinite e.conditions) : AllFinite e'.conditions := by
  obtain ⟨n, rename, rfl⟩ := h
  refine allFinite_list.2 fun c' hc' => ?_
  obtain ⟨c, hc, rfl⟩ := List.mem_map.1 hc'
  obtain ⟨hdelay, hcount, htest⟩ := (allFinite_pair.trans (and_congr_right fun _ => allFinite_pair)).1
    (allFinite_list.1 hfinite c hc)
  exact (allFinite_pair.trans (and_congr_right fun _ => allFinite_pair)).2
    ⟨hdelay, hcount, (Test.allFinite_renamed rename c.test).2 htest⟩

theorem Event.Finished.forall_actions (h : e.Finished e') {P : Action → Prop}
    (hP : ∀ a n, P { a with id := n } ↔ P a) : (∀ a ∈ e'.actions, P a) ↔ ∀ a ∈ e.actions, P a := by
  obtain ⟨n, rename, rfl⟩ := h
  simp only [Event.renamed, List.forall_mem_iff_getElem, List.length_mapIdx, List.getElem_mapIdx, hP]

theorem Event.Finished.steady (h : e.Finished e') (he : e.Steady) : e'.Steady :=
  ⟨h.conditions he.conditions, (h.forall_actions fun _ _ => Iff.rfl).2 he.actions⟩

theorem Event.Finished.endsInTime (h : e.Finished e') :
    (∀ a ∈ e'.actions, a.EndsInTime) ↔ ∀ a ∈ e.actions, a.EndsInTime :=
  h.forall_actions fun _ _ => Iff.rfl

structure Event.AllFinished (kept finished : List Event) : Prop where
  sound : ∀ e' ∈ finished, ∃ e ∈ kept, e.Finished e'
  complete : ∀ e ∈ kept, ∃ e' ∈ finished, e.Finished e'

theorem allFinished_finishEvents (table : ActionTable) (l : List Event) :
    Event.AllFinished l (finishEvents table (.numbered l)).values := by
  have hmem (e' : Event) : e' ∈ (finishEvents table (.numbered l)).values ↔
      ∃ (e : Event) (n : Nat), l[n]? = some e ∧ { e with id := n }.renamed (lookUp table) = e' := by
    have hvalues : (finishEvents table (.numbered l)).values =
        l.zipIdx.map fun p => { p.1 with id := p.2 }.renamed (lookUp table) := by
      simp [finishEvents_eq, KeyMap.map, KeyMap.values, Events.numbered]
    simp only [hvalues, List.mem_map, Prod.exists, List.mk_mem_zipIdx_iff_getElem?]
  constructor
  · intro e' he'
    obtain ⟨e, n, he, rfl⟩ := (hmem e').1 he'
    exact ⟨e, List.mem_of_getElem? he, n, _, rfl⟩
  · intro e he
    obtain ⟨n, hn⟩ := List.getElem?_of_mem he
    exact ⟨_, (hmem _).2 ⟨e, n, hn, rfl⟩, n, _, rfl⟩

theorem Scene.Owned.allFinished {who : Naming} {kept : List Event} {s : Scene} (h : s.Owned who kept) :
    Event.AllFinished kept (s.events.values ++ s.allEgoEvents) := by
  obtain ⟨table, hevents⟩ := h.events
  obtain ⟨egoTable, hshelves⟩ := h.egoEvents
  have hfree := allFinished_finishEvents table (freeEvents who kept)
  rw [← hevents] at hfree
  have hown (k : Nat) := allFinished_finishEvents egoTable (eventsOfEgo who k kept)
  have hshelf (e' : Event) : e' ∈ s.allEgoEvents ↔
      ∃ k, e' ∈ (finishEvents egoTable (.numbered (eventsOfEgo who k kept))).values := by
    have hshelved : e' ∈ s.allEgoEvents ↔ ∃ k shelf, s.egoEvents.get? k = some shelf ∧ e' ∈ shelf.values := by
      simp only [Scene.allEgoEvents, List.mem_flatMap, mem_values]
      constructor
      · rintro ⟨shelf, ⟨k, hk⟩, he'⟩
        exact ⟨k, shelf, hk, he'⟩
      · rintro ⟨k, shelf, hk, he'⟩
        exact ⟨shelf, ⟨k, hk⟩, he'⟩
    rw [hshelved]
    refine exists_congr fun k => ?_
    rw [hshelves, Events.shelf]
    split
    next hnone => simp [hnone, finishEvents, KeyMap.map, KeyMap.values, Events.numbered]
    next => simp
  constructor
  · intro e' he'
    rcases List.mem_append.1 he' with he' | he'
    · obtain ⟨e, he, hfinished⟩ := hfree.sound e' he'
      exact ⟨e, (List.mem_filter.1 he).1, hfinished⟩
    · obtain ⟨k, he'⟩ := (hshelf e').1 he'
      obtain ⟨e, he, hfinished⟩ := (hown k).sound e' he'
      exact ⟨e, (List.mem_filter.1 he).1, hfinished⟩
  · intro e he
    cases hego : e.ego? who with
    | none =>
      obtain ⟨e', he', hfinished⟩ := hfree.complete e (List.mem_filter.2 ⟨he, by rw [hego]; rfl⟩)
      exact ⟨e', List.mem_append_left _ he', hfinished⟩
    | some k =>
      obtain ⟨e', he', hfinished⟩ := (hown k).complete e (List.mem_filter.2 ⟨he, decide_eq_true hego⟩)
      exact ⟨e', List.mem_append_right _ ((hshelf e').2 ⟨k, he'⟩), hfinished⟩

end Finished

end Scenography
