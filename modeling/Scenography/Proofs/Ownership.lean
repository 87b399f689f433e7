import Mathlib.Data.List.Basic
import Scenography.Proofs.Opening

namespace Scenography

open Markup (Element)

def Events.numbered (l : List Event) : Events where
  entries := l.zipIdx.map fun p => (p.2, { p.1 with id := p.2 })
  sorted := by
    rw [List.pairwise_map, List.pairwise_iff_getElem]
    intro i j hi hj hij
    simpa using hij

namespace Events

theorem numbered_append (l : List Event) (e : Event) :
    numbered (l ++ [e]) = (numbered l).insert l.length { e with id := l.length } := by
  apply KeyMap.ext
  have hlast : ∀ p ∈ (numbered l).entries, p.1 < l.length := by
    intro p hp
    obtain ⟨⟨e', i⟩, hm, rfl⟩ := List.mem_map.1 hp
    simpa using List.snd_lt_of_mem_zipIdx hm
  refine .trans ?_ (KeyMap.place_last hlast).symm
  simp [numbered, List.zipIdx_append]

theorem get?_numbered (l : List Event) (n : Nat) :
    (numbered l).get? n = l[n]?.map fun e => { e with id := n } := by
  apply Option.ext
  intro e
  rw [KeyMap.get?_eq_some_iff]
  simp only [numbered, List.mem_map, Prod.exists, Prod.mk.injEq, List.mk_mem_zipIdx_iff_getElem?,
    Option.map_eq_some_iff]
  constructor
  · rintro ⟨e', i, he, rfl, rfl⟩
    exact ⟨e', he, rfl⟩
  · rintro ⟨e', he, rfl⟩
    exact ⟨e', n, he, rfl, rfl⟩

def shelf (l : List Event) : Option Events :=
  if l = [] then none else some (numbered l)

theorem shelf_append (l : List Event) (e : Event) :
    shelf (l ++ [e]) = some (((shelf l).getD ∅).insert l.length { e with id := l.length }) := by
  have hl : (shelf l).getD ∅ = numbered l := by
    unfold shelf
    split
    next h => rw [h]; rfl
    next => rfl
  rw [hl, ← numbered_append]
  simp [shelf]

end Events

section Owners

abbrev Naming := String → Option (EntityKind × Nat)

variable (who : Naming) (kind : EntityKind) (i k : Nat) (l : List Event) (e : Event)

def Event.ego? : Option Nat :=
  match who e.owner with
  | some (.ego, k) => some k
  | _ => none

def freeEvents : List Event :=
  l.filter fun e => (e.ego? who).isNone

def eventsOfEgo : List Event :=
  l.filter fun e => e.ego? who = some k

def listedEvents : List Nat :=
  match kind with
  | .vehicle => (freeEvents who l).findIdxs fun e => who e.owner = some (.vehicle, i)
  | .pedestrian => (freeEvents who l).findIdxs fun e => who e.owner = some (.pedestrian, i)
  | .ego => []
  | .obstacle => []

variable {who kind i k l e}

theorem Event.ego?_eq_some_iff : e.ego? who = some k ↔ who e.owner = some (.ego, k) := by
  unfold ego?
  split
  next k' h => simp [h]
  next h => simpa using fun hk => h k hk

theorem freeEvents_append :
    freeEvents who (l ++ [e]) = freeEvents who l ++ if (e.ego? who).isNone then [e] else [] := by
  simp [freeEvents, List.filter_cons]

theorem eventsOfEgo_append :
    eventsOfEgo who k (l ++ [e]) = eventsOfEgo who k l ++ if e.ego? who = some k then [e] else [] := by
  simp [eventsOfEgo, List.filter_cons]

theorem listedEvents_append_ego (h : (e.ego? who).isNone = false) :
    listedEvents who kind i (l ++ [e]) = listedEvents who kind i l := by
  simp only [listedEvents, freeEvents_append, h, Bool.false_eq_true, ↓reduceIte, List.append_nil]

theorem listedEvents_append_free (kind : EntityKind) (i : Nat) (h : (e.ego? who).isNone = true) :
    listedEvents who kind i (l ++ [e]) = listedEvents who kind i l ++
      if (kind = .vehicle ∨ kind = .pedestrian) ∧ who e.owner = some (kind, i)
        then [(freeEvents who l).length] else [] := by
  cases kind <;> simp [listedEvents, freeEvents_append, h]

theorem mem_listedEvents_iff {n : Nat} :
    n ∈ listedEvents who kind i l ↔ (kind = .vehicle ∨ kind = .pedestrian) ∧
      ∃ e, (freeEvents who l)[n]? = some e ∧ who e.owner = some (kind, i) := by
  cases kind <;> simp [listedEvents, List.getElem?_eq_some_iff]

theorem listedEvents_ascend : (listedEvents who kind i l).Pairwise (· < ·) := by
  cases kind
  · exact .nil
  · exact List.pairwise_findIdxs
  · exact List.pairwise_findIdxs
  · exact .nil

end Owners

namespace Staging

theorem withEvent_id (n : Nat) (e : Entity) : (withEvent n e).id = e.id := by
  unfold withEvent
  dsimp only
  split <;> rfl

theorem withEvent_kind (n : Nat) (e : Entity) : (withEvent n e).kind = e.kind := by
  unfold withEvent
  dsimp only
  split <;> rfl

theorem withEvent_events {n : Nat} {e : Entity} (h : n ∉ e.events) :
    (withEvent n e).events = e.events ++ if e.kind = .vehicle ∨ e.kind = .pedestrian then [n] else [] := by
  unfold withEvent
  dsimp only
  split <;> simp [*]

end Staging

structure Stage.Filed (who : Naming) (past : List Event) (s : Stage) : Prop where
  cast : s.cast.WellFormed
  named : s.cast.who? = who
  count : s.counters.events = (freeEvents who past).length
  egoCount : ∀ k, (s.counters.egoEvents.get? k).getD 0 = (eventsOfEgo who k past).length
  events : s.events = .numbered (freeEvents who past)
  egoEvents : ∀ k, s.egoEvents.get? k = Events.shelf (eventsOfEgo who k past)
  plannerEvents : s.plannerEvents = s.egoEvents
  listed : ∀ kind i e, (s.cast.ofKind kind).get? i = some e → e.events = listedEvents who kind i past

namespace Stage.Filed

variable {who : Naming} {past : List Event} {s t : Stage}

theorem of_unplayed (h : s.Unplayed) : s.Filed s.cast.who? [] where
  cast := h.cast
  named := rfl
  count := h.count
  egoCount := by simp [h.egoCount, eventsOfEgo]
  events := h.events
  egoEvents := by simp [h.egoEvents, eventsOfEgo, Events.shelf]
  plannerEvents := by rw [h.plannerEvents, h.egoEvents]
  listed := by
    intro kind i e he
    rw [(h.idle kind i e he).events]
    cases kind <;> rfl

theorem sameEvents (h : s.Filed who past) (hst : s.SameEvents t) : t.Filed who past where
  cast := hst.cast.wellFormed h.cast
  named := by
    rw [← h.named]
    exact funext fun name => (hst.cast.who? name).symm
  count := hst.count.trans h.count
  egoCount := hst.egoCount ▸ h.egoCount
  events := hst.events.trans h.events
  egoEvents := hst.egoEvents ▸ h.egoEvents
  plannerEvents := by rw [hst.plannerEvents, h.plannerEvents, hst.egoEvents]
  listed := by
    intro kind i e he
    obtain ⟨e', he', hp⟩ := hst.cast.get? he
    rw [← Entity.events_of_plain hp]
    exact h.listed kind i e' he'

theorem withEgoEvent (h : s.Filed who past) {event : Event} {ego : Nat} (hego : event.ego? who = some ego) :
    (s.withEgoEvent ego event).Filed who (past ++ [event]) := by
  have hfree : freeEvents who (past ++ [event]) = freeEvents who past := by simp [freeEvents_append, hego]
  have hlisted (kind : EntityKind) (i : Nat) :
      listedEvents who kind i (past ++ [event]) = listedEvents who kind i past :=
    listedEvents_append_ego (by simp [hego])
  have hof (k : Nat) : eventsOfEgo who k (past ++ [event]) =
      eventsOfEgo who k past ++ if k = ego then [event] else [] := by
    simp [eventsOfEgo_append, hego, eq_comm]
  have hput (k : Nat) : (s.egoEvents.insert ego (((s.egoEvents.get? ego).getD ∅).insert
      (eventsOfEgo who ego past).length { event with id := (eventsOfEgo who ego past).length })).get? k =
        Events.shelf (eventsOfEgo who k (past ++ [event])) := by
    rw [KeyMap.get?_insert, hof, h.egoEvents, h.egoEvents]
    split
    next hk => rw [hk, Events.shelf_append]
    next => rw [List.append_nil]
  constructor
  case cast => exact h.cast
  case named => exact h.named
  case count =>
    rw [hfree]
    exact h.count
  case egoCount =>
    intro k
    rw [hof]
    simp only [Stage.withEgoEvent, KeyMap.get?_insert, h.egoCount]
    split
    next hk => simp [hk]
    next => simpa using h.egoCount k
  case events =>
    rw [hfree]
    exact h.events
  case egoEvents =>
    intro k
    simp only [Stage.withEgoEvent, h.egoCount]
    exact hput k
  case plannerEvents =>
    simp only [Stage.withEgoEvent, h.plannerEvents]
  case listed =>
    intro kind i e he
    rw [hlisted]
    exact h.listed kind i e he

theorem listed_lt (h : s.Filed who past) {kind : EntityKind} {i : Nat} {e : Entity}
    (he : (s.cast.ofKind kind).get? i = some e) : ∀ n ∈ e.events, n < s.counters.events := by
  intro n hn
  rw [h.listed kind i e he] at hn
  obtain ⟨-, event, hevent, -⟩ := mem_listedEvents_iff.1 hn
  rw [h.count]
  exact (List.getElem?_eq_some_iff.1 hevent).1

theorem file (h : s.Filed who past) {event : Event} (hego : event.ego? who = none) {cast : Cast}
    (hcast : cast.WellFormed) (hwho : cast.who? = who) {counters : Counters}
    (hcount : counters = { s.counters with events := s.counters.events + 1 })
    (hlisted : ∀ kind i e, (cast.ofKind kind).get? i = some e →
      e.events = listedEvents who kind i (past ++ [event]))
    (j : Journal) :
    { s with
      counters, cast
      journal := j
      events := s.events.insert s.counters.events { event with id := s.counters.events } }.Filed
        who (past ++ [event]) := by
  have hfree : freeEvents who (past ++ [event]) = freeEvents who past ++ [event] := by
    simp [freeEvents_append, hego]
  have hof (k : Nat) : eventsOfEgo who k (past ++ [event]) = eventsOfEgo who k past := by
    simp [eventsOfEgo_append, hego]
  subst hcount
  constructor
  case cast => exact hcast
  case named => exact hwho
  case count =>
    simp [hfree, h.count]
  case egoCount =>
    simpa [hof] using h.egoCount
  case events =>
    rw [hfree, Events.numbered_append, ← h.count, ← h.events]
  case egoEvents =>
    simpa [hof] using h.egoEvents
  case plannerEvents => exact h.plannerEvents
  case listed => exact hlisted

theorem stored (h : s.Filed who past) {event : Event} (hs : s.Stored event t) : t.Filed who (past ++ [event]) := by
  have hwho {e : Entity} (hfind : s.cast.find? event.owner = some e) : who event.owner = some (e.kind, e.id) := by
    rw [← h.named, Cast.who?, hfind, Option.map_some]
  have happend (hego : event.ego? who = none) (kind : EntityKind) (i : Nat) :=
    listedEvents_append_free (l := past) kind i (Option.isNone_iff_eq_none.2 hego)
  cases hs with
  | ego hfind hkind => exact h.withEgoEvent (Event.ego?_eq_some_iff.2 (hkind ▸ hwho hfind))
  | stray hfind j =>
    -- Nobody answers to the owner's name: the event is kept, and no entity lists it.
    have hnobody : who event.owner = none := by rw [← h.named, Cast.who?, hfind, Option.map_none]
    have hego : event.ego? who = none := by simp [Event.ego?, hnobody]
    refine h.file hego h.cast h.named rfl (fun kind i e he => ?_) _
    rw [happend hego, h.listed kind i e he]
    simp [hnobody]
  | listed hfind hkind =>
    have hego : event.ego? who = none := by
      rw [Option.eq_none_iff_forall_ne_some]
      intro k hk
      have hw := (hwho hfind).symm.trans (Event.ego?_eq_some_iff.1 hk)
      exact hkind (Prod.mk.inj (Option.some.inj hw)).1
    have hsame : ∀ e, s.cast.find? event.owner = some e →
        (Staging.withEvent s.counters.events e).id = e.id ∧
          (Staging.withEvent s.counters.events e).kind = e.kind :=
      fun e _ => ⟨Staging.withEvent_id _ e, Staging.withEvent_kind _ e⟩
    have hnamed : (s.cast.modify event.owner (Staging.withEvent s.counters.events)).who? = who := by
      rw [← h.named]
      exact funext fun name => Cast.who?_modify h.cast hsame name
    refine h.file hego (h.cast.modify hsame) hnamed rfl (fun kind i e he => ?_) s.journal
    rw [happend hego]
    rw [h.cast.get?_modify, h.named] at he
    split at he
    next hw =>
      obtain ⟨e', he', rfl⟩ := Option.map_eq_some_iff.1 he
      -- The number is a new one, so `withEvent` does append it.
      have hnew : s.counters.events ∉ e'.events := fun hm => Nat.lt_irrefl _ (h.listed_lt he' _ hm)
      rw [Staging.withEvent_events hnew, h.cast.kind_eq _ _ _ he', h.listed kind i e' he', h.count]
      simp [hw]
    next hw =>
      rw [h.listed kind i e he]
      simp [hw]

theorem walks (who : Naming) :
    Staging.Walks (fun past s => s.Filed who past) fun past _ _ s => s.Filed who past where
  reads := fun _ s j hs => hs.sameEvents ((SameEvents.refl s).journal j)
  readsOn := fun _ _ _ s j hs => hs.sameEvents ((SameEvents.refl s).journal j)
  begins := fun _ _ _ hs => hs
  reroutes := fun _ _ _ _ _ _ _ _ hs _ ha => hs.sameEvents ha.sameEvents
  moves := fun _ _ _ _ _ _ hs _ _ hm => hs.sameEvents hm.sameEvents
  drops := fun _ _ _ hs => hs
  keeps := fun _ _ _ _ _ hs _ hstored => hs.stored hstored

end Stage.Filed

section Runs

variable {sources : Sources} {map : RoadMap} {root : Element} {sections : Sections}

theorem shareTimelines_sameEvents (sources : Sources) (map : RoadMap) (s : Stage) :
    s.SameEvents (Staging.exec sources map Staging.shareTimelines s).2 := by
  refine ⟨rfl, rfl, rfl, rfl, rfl, rfl, fun kind i => ?_⟩
  cases kind with
  | vehicle =>
    have hplain : Entity.plain ∘ Entity.withSharedTimelines = Entity.plain := rfl
    change _ = ((s.cast.vehicles.map Entity.withSharedTimelines).get? i).map Entity.plain
    rw [KeyMap.get?_map, Option.map_map, hplain]
    rfl
  | ego => rfl
  | pedestrian => rfl
  | obstacle => rfl

theorem finalStage_filed (h : Sections.ofRoot root = .ok sections) :
    (finalStage sources map root).Filed (finalStage sources map root).cast.who? (keptEvents sources map root) := by
  have hwalk := (Stage.Filed.walks _).told h (.of_unplayed (openStage_unplayed sources map root sections))
  have hfinal := hwalk.sameEvents (shareTimelines_sameEvents sources map _)
  rw [← hfinal.named] at hfinal
  exact hfinal

end Runs

def Scene.ofKind (s : Scene) : EntityKind → KeyMap Nat Entity
  | .ego => s.egos
  | .vehicle => s.vehicles
  | .pedestrian => s.pedestrians
  | .obstacle => s.obstacles

theorem Stage.ofKind_scene (s : Stage) (kind : EntityKind) :
    s.scene.withReferences.ofKind kind = s.cast.ofKind kind := by
  cases kind <;> rfl

open References

theorem get?_finishEvents (table : ActionTable) (events : Events) (n : Nat) :
    (finishEvents table events).get? n = (events.get? n).map fun e => pointEvent table (numberActions e) :=
  KeyMap.get?_map _ _ _

theorem get?_finishEvents_numbered {table : ActionTable} {l : List Event} {n : Nat} {e : Event}
    (h : (finishEvents table (.numbered l)).get? n = some e) :
    e.id = n ∧ ∃ e', l[n]? = some e' ∧ e.owner = e'.owner := by
  rw [get?_finishEvents, Events.get?_numbered, Option.map_map] at h
  obtain ⟨e', he', rfl⟩ := Option.map_eq_some_iff.1 h
  exact ⟨rfl, e', he', rfl⟩

theorem mem_listedEvents_iff_of_finished {who : Naming} {kept : List Event} {table : ActionTable}
    {kind : EntityKind} {i n : Nat} :
    n ∈ listedEvents who kind i kept ↔ (kind = .vehicle ∨ kind = .pedestrian) ∧
      ∃ e, (finishEvents table (.numbered (freeEvents who kept))).get? n = some e ∧
        who e.owner = some (kind, i) := by
  rw [mem_listedEvents_iff]
  refine and_congr_right fun _ => ?_
  constructor
  · rintro ⟨e, he, hw⟩
    refine ⟨pointEvent table (numberActions { e with id := n }), ?_, hw⟩
    rw [get?_finishEvents, Events.get?_numbered, he]
    rfl
  · rintro ⟨e, he, hw⟩
    obtain ⟨-, e', he', hown⟩ := get?_finishEvents_numbered he
    exact ⟨e', he', hown ▸ hw⟩

/-- The events kept, in the order of the walk, are all there once: under their ego's number or among
the free ones, where the entities list their own. -/
structure Scene.Owned (who : Naming) (kept : List Event) (s : Scene) : Prop where
  known : ∀ name kind i, who name = some (kind, i) → ((s.ofKind kind).get? i).isSome
  events : ∃ table, s.events = finishEvents table (.numbered (freeEvents who kept))
  egoEvents : ∃ table, ∀ k, s.egoEvents.get? k = (Events.shelf (eventsOfEgo who k kept)).map (finishEvents table)
  id_eq : ∀ n e, s.events.get? n = some e → e.id = n
  egoId_eq : ∀ k es n e, s.egoEvents.get? k = some es → es.get? n = some e → e.id = n
  ascend : ∀ kind i entity, (s.ofKind kind).get? i = some entity → entity.events.Pairwise (· < ·)
  listed : ∀ kind i entity, (s.ofKind kind).get? i = some entity → ∀ n, n ∈ entity.events ↔
    (kind = .vehicle ∨ kind = .pedestrian) ∧ ∃ e, s.events.get? n = some e ∧ who e.owner = some (kind, i)
  apart : ∀ kind i entity kind' i' entity' n, (s.ofKind kind).get? i = some entity →
    (s.ofKind kind').get? i' = some entity' → n ∈ entity.events → n ∈ entity'.events → kind = kind' ∧ i = i'

theorem Stage.Filed.owned {who : Naming} {kept : List Event} {s : Stage} (h : s.Filed who kept) :
    s.scene.withReferences.Owned who kept := by
  have hevents : s.scene.withReferences.events =
      finishEvents (enterEvents ∅ s.events.values) (.numbered (freeEvents who kept)) :=
    congrArg (finishEvents _) h.events
  have hego (k : Nat) : s.scene.withReferences.egoEvents.get? k =
      (Events.shelf (eventsOfEgo who k kept)).map
        (finishEvents (enterEvents (enterEvents ∅ s.events.values) s.scene.allEgoEvents)) := by
    refine (KeyMap.get?_map _ _ _).trans ?_
    exact congrArg (Option.map _) (h.egoEvents k)
  have hlisted : ∀ kind i entity, (s.scene.withReferences.ofKind kind).get? i = some entity → ∀ n,
      n ∈ entity.events ↔ (kind = .vehicle ∨ kind = .pedestrian) ∧
        ∃ e, s.scene.withReferences.events.get? n = some e ∧ who e.owner = some (kind, i) := by
    intro kind i entity he n
    rw [ofKind_scene] at he
    rw [h.listed kind i entity he, hevents]
    exact mem_listedEvents_iff_of_finished
  constructor
  case known =>
    intro name kind i hw
    rw [ofKind_scene]
    rw [← h.named] at hw
    exact h.cast.known _ _ (h.cast.who?_eq_some_iff.1 hw)
  case events => exact ⟨_, hevents⟩
  case egoEvents => exact ⟨_, hego⟩
  case id_eq =>
    intro n e he
    rw [hevents] at he
    exact (get?_finishEvents_numbered he).1
  case egoId_eq =>
    intro k es n e hes he
    rw [hego] at hes
    obtain ⟨shelf, hshelf, rfl⟩ := Option.map_eq_some_iff.1 hes
    unfold Events.shelf at hshelf
    split at hshelf
    · cases hshelf
    · cases hshelf
      exact (get?_finishEvents_numbered he).1
  case ascend =>
    intro kind i entity he
    rw [ofKind_scene] at he
    rw [h.listed kind i entity he]
    exact listedEvents_ascend
  case listed => exact hlisted
  case apart =>
    intro kind i entity kind' i' entity' n he he' hn hn'
    obtain ⟨-, e, hget, hw⟩ := (hlisted kind i entity he n).1 hn
    obtain ⟨-, e', hget', hw'⟩ := (hlisted kind' i' entity' he' n).1 hn'
    cases hget.symm.trans hget'
    simpa using hw.symm.trans hw'

theorem stage_owned {sources : Sources} {map : RoadMap} {root : Element} {staged : Staged}
    (h : (stage sources root).run map = .ok staged) :
    staged.scene.Owned (finalStage sources map root).cast.who? (keptEvents sources map root) := by
  obtain ⟨sections, hroot, rfl⟩ := run_stage h
  exact (finalStage_filed hroot).owned

theorem sample_owned : ∃ staged, (stage .bare Sample.root).run .blank = .ok staged ∧
    staged.scene.Owned (finalStage .bare .blank Sample.root).cast.who? (keptEvents .bare .blank Sample.root) ∧
    staged.scene.vehicles.values.map (·.events) = [[0, 1]] ∧
    staged.scene.egoEvents.values.map (·.keys) = [[0]] := by
  have h := Sample.stage_root .blank
  exact ⟨_, h, stage_owned h, by decide +kernel, by decide +kernel⟩

end Scenography
