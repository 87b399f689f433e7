import Scenography.Proofs.Ownership
import Scenography.Proofs.Steps
import Scenography.Proofs.TimelineOrder

namespace Scenography

variable {π : Type}

namespace Timeline

theorem id_addAll (t : Timeline π) (l : List (Node π)) : (t.addAll l).id = t.id := by
  induction l generalizing t with
  | nil => rfl
  | cons n l ih =>
    have hadd : ((t.add? n).getD t).id = t.id := by
      cases h : t.add? n with
      | none => rfl
      | some t' => rw [Option.getD_some, (add?_eq_some h).1]
    have hrest : (t.addAll (n :: l)).id = ((t.add? n).getD t).id := ih _
    exact hrest.trans hadd

theorem nodes_addAll_ne_nil {t : Timeline π} (h : t.nodes ≠ []) (l : List (Node π)) : (t.addAll l).nodes ≠ [] := by
  induction l generalizing t with
  | nil => exact h
  | cons n l ih =>
    refine ih (t := (t.add? n).getD t) ?_
    cases hadd : t.add? n with
    | none => exact h
    | some t' => exact List.ne_nil_of_mem ((mem_of_add? hadd n).2 (.inl rfl))

theorem nodes_empty_addAll_ne_nil {l : List (Node π)} (h : l ≠ []) (id : String) :
    ((empty id).addAll l).nodes ≠ [] := by
  obtain ⟨n, l, rfl⟩ := List.exists_cons_of_ne_nil h
  have hfirst : place n [] ≠ [] := List.ne_nil_of_mem (mem_place.2 (.inl rfl))
  exact nodes_addAll_ne_nil (t := ⟨id, place n []⟩) hfirst l

end Timeline

namespace Timelines

open Timeline Counters

def Timed (l : List (Node π)) : Prop :=
  ∀ n ∈ l, n.cue.value.isFinite = true

theorem Timed.append {l : List (Node π)} (h : Timed l) {cue : Cue} (hcue : cue.value.isFinite = true) (payload : π) :
    Timed (l ++ [cue.node payload]) := by
  intro n hn
  rcases List.mem_append.1 hn with hn | hn
  · exact h n hn
  · rw [List.mem_singleton.1 hn]
    exact hcue

structure Allotted (home : Nat → Option (Option String)) (count : Nat) (m : KeyMap String (Timeline π))
    (fed : Nat → List (Node π)) : Prop extends Held home count m fed where
  timed : ∀ i, Timed (fed i)
  used : ∀ i id, home i = some (some id) → fed i ≠ []
  taken : ∀ n < count, ∃ i, home i = some (some (toString (n + 2)))
  keys : ∀ id t, m.get? id = some t → id = sharedTimeline ∨ ∃ n < count, id = toString (n + 2)

namespace Allotted

variable {home : Nat → Option (Option String)} {count : Nat} {m : KeyMap String (Timeline π)}
  {fed : Nat → List (Node π)} {i : Nat} {cue : Cue}

theorem start (h : ∀ i id, home i = some id → id = none)
    (hm : m.get? sharedTimeline = some (.empty sharedTimeline))
    (hn : ∀ id, id ≠ sharedTimeline → m.get? id = none) : Allotted home 0 m fun _ => [] where
  toHeld := .start h hm hn
  timed := by simp [Timed]
  used := by
    intro i id hi
    cases h i _ hi
  taken := nofun
  keys := by
    intro id t ht
    by_contra hne
    rw [hn id fun heq => hne (.inl heq)] at ht
    cases ht

theorem timed_feedOne (h : Allotted home count m fed) (hcue : cue.value.isFinite = true) (payload : π) (i j : Nat) :
    Timed (feedOne fed i [cue.node payload] j) := by
  unfold feedOne
  split
  · exact (h.timed j).append hcue payload
  · exact h.timed j

theorem store (h : Allotted home count m fed) {id : String} (hi : home i = some (some id))
    (hcue : cue.value.isFinite = true) (payload : π) :
    Allotted home count ((store? m id cue payload).getD m) (feedOne fed i [cue.node payload]) where
  toHeld := h.toHeld.store hi cue payload
  timed := h.timed_feedOne hcue payload i
  used := by
    intro j id hj
    unfold feedOne
    split
    · simp
    · exact h.used j id hj
  taken := h.taken
  keys := by
    intro id' t ht
    by_cases hid : id' = id
    · rw [hid]
      exact .inr (h.own i id hi)
    · rw [get?_store_of_ne hid] at ht
      exact h.keys id' t ht

theorem claim (h : Allotted home count m fed) (hi : home i = some none) (hcue : cue.value.isFinite = true)
    (payload : π) :
    Allotted (fun j => if j = i then some (some (toString (count + 2))) else home j) (count + 1)
      ((store? m (toString (count + 2)) cue payload).getD m) (feedOne fed i [cue.node payload]) where
  toHeld := h.toHeld.claim hi cue payload
  timed := h.timed_feedOne hcue payload i
  used := by
    intro j id hj
    unfold feedOne
    split
    next => simp
    next hji =>
      rw [if_neg hji] at hj
      exact h.used j id hj
  taken := by
    intro n hn
    rcases Nat.lt_succ_iff_lt_or_eq.1 hn with hn | rfl
    · obtain ⟨j, hj⟩ := h.taken n hn
      have hji : j ≠ i := by
        rintro rfl
        cases hi.symm.trans hj
      exact ⟨j, by rw [if_neg hji]; exact hj⟩
    · exact ⟨i, if_pos rfl⟩
  keys := by
    intro id t ht
    by_cases hid : id = toString (count + 2)
    · exact .inr ⟨count, Nat.lt_succ_self _, hid⟩
    · rw [get?_store_of_ne hid] at ht
      rcases h.keys id t ht with hid | ⟨n, hn, hid⟩
      · exact .inl hid
      · exact .inr ⟨n, Nat.lt_succ_of_lt hn, hid⟩

theorem get?_cases (h : Allotted home count m fed) {id : String} {t : Timeline π} (ht : m.get? id = some t) :
    (id = sharedTimeline ∧ t = .empty id) ∨
      ∃ i, home i = some (some id) ∧ t = (Timeline.empty id).addAll (fed i) := by
  rcases h.keys id t ht with rfl | ⟨n, hn, rfl⟩
  · exact .inl ⟨rfl, Option.some.inj (ht.symm.trans h.shared)⟩
  · obtain ⟨i, hi⟩ := h.taken n hn
    exact .inr ⟨i, hi, Option.some.inj (ht.symm.trans (h.holds i _ hi))⟩

theorem ordered (h : Allotted home count m fed) {id : String} {t : Timeline π} (ht : m.get? id = some t) :
    t.Ordered := by
  rcases h.get?_cases ht with ⟨-, rfl⟩ | ⟨i, -, rfl⟩
  · exact .empty id
  · exact (Ordered.empty id).addAll (h.timed i)

end Allotted

def Personal (owns : Nat → Bool) (m : KeyMap String (Timeline π)) : Prop :=
  ∀ id t, m.get? id = some t →
    ∃ i l, owns i = true ∧ id = toString i ∧ l ≠ [] ∧ Timed l ∧ t = (Timeline.empty id).addAll l

theorem Personal.store {owns : Nat → Bool} {m : KeyMap String (Timeline π)} (h : Personal owns m) {i : Nat}
    (hi : owns i = true) {cue : Cue} (hcue : cue.value.isFinite = true) (payload : π) :
    Personal owns ((store? m (toString i) cue payload).getD m) := by
  intro id t ht
  by_cases hid : id = toString i
  · subst hid
    rw [get?_store, Option.some.injEq] at ht
    subst ht
    cases hget : m.get? (toString i) with
    | none =>
      refine ⟨i, [cue.node payload], hi, rfl, by simp, ?_, rfl⟩
      intro n hn
      rw [List.mem_singleton.1 hn]
      exact hcue
    | some t =>
      obtain ⟨j, l, -, -, -, hl, rfl⟩ := h _ t hget
      exact ⟨i, l ++ [cue.node payload], hi, rfl, by simp, hl.append hcue payload, (Timeline.addAll_append _ _ _).symm⟩
  · rw [get?_store_of_ne hid] at ht
    exact h id t ht

end Timelines

open Timelines (Allotted Personal feedOne own?)

def Entity.timelineIds (e : Entity) : Option String × Option String :=
  (e.rampTimeline, e.mergeTimeline)

namespace Stage

def mergeHomes (s : Stage) (i : Nat) : Option (Option String) :=
  (s.cast.vehicles.get? i).map (·.mergeTimeline)

structure Shelved (s : Stage) : Prop where
  cast : s.cast.WellFormed
  ramps : ∃ fed, Allotted s.homes s.counters.ramps s.timelines.ramps fed
  merges : ∃ fed, Allotted s.mergeHomes s.counters.merges s.timelines.merges fed
  speeds : Personal (fun i => (s.cast.vehicles.get? i).isSome) s.timelines.speeds
  walks : Personal (fun i => (s.cast.pedestrians.get? i).isSome) s.timelines.walks
  others : ∀ kind i e, kind ≠ .vehicle → (s.cast.ofKind kind).get? i = some e → e.timelineIds = (none, none)

namespace Shelved

variable {s t : Stage}

theorem of_unplayed (h : s.Unplayed) : s.Shelved where
  cast := h.cast
  ramps := by
    refine ⟨fun _ => [], ?_⟩
    rw [h.ramps, h.timelines]
    refine .start (fun i id hid => ?_) (KeyMap.get?_insert_self _ _ _) fun id hne => ?_
    · obtain ⟨v, hv, rfl⟩ := Option.map_eq_some_iff.1 hid
      exact (h.idle .vehicle i v hv).ramps
    · exact KeyMap.get?_insert_of_ne hne _ _
  merges := by
    refine ⟨fun _ => [], ?_⟩
    rw [h.merges, h.timelines]
    refine .start (fun i id hid => ?_) (KeyMap.get?_insert_self _ _ _) fun id hne => ?_
    · obtain ⟨v, hv, rfl⟩ := Option.map_eq_some_iff.1 hid
      exact (h.idle .vehicle i v hv).merges
    · exact KeyMap.get?_insert_of_ne hne _ _
  speeds := by
    rw [h.timelines]
    exact nofun
  walks := by
    rw [h.timelines]
    exact nofun
  others := by
    intro kind i e _ he
    have hidle := h.idle kind i e he
    rw [Entity.timelineIds, hidle.ramps, hidle.merges]

theorem congr (h : s.Shelved) (hcast : t.cast.WellFormed) (hsame : Cast.Same Entity.timelineIds t.cast s.cast)
    (hramps : t.counters.ramps = s.counters.ramps) (hmerges : t.counters.merges = s.counters.merges)
    (htimelines : t.timelines = s.timelines) : t.Shelved := by
  have hhomes : t.homes = s.homes := by
    funext i
    have hview := congrArg (Option.map Prod.fst) (hsame.view .vehicle i)
    rw [Option.map_map, Option.map_map] at hview
    exact hview
  have hmergeHomes : t.mergeHomes = s.mergeHomes := by
    funext i
    have hview := congrArg (Option.map Prod.snd) (hsame.view .vehicle i)
    rw [Option.map_map, Option.map_map] at hview
    exact hview
  have hthere (kind : EntityKind) (i : Nat) :
      ((t.cast.ofKind kind).get? i).isSome = ((s.cast.ofKind kind).get? i).isSome := by
    rw [← Option.isSome_map (f := Entity.timelineIds), hsame.view, Option.isSome_map]
  have hvehicles : (fun i => (t.cast.vehicles.get? i).isSome) = fun i => (s.cast.vehicles.get? i).isSome :=
    funext (hthere .vehicle)
  have hpedestrians : (fun i => (t.cast.pedestrians.get? i).isSome) = fun i => (s.cast.pedestrians.get? i).isSome :=
    funext (hthere .pedestrian)
  constructor
  case cast => exact hcast
  case ramps =>
    rw [hhomes, hramps, htimelines]
    exact h.ramps
  case merges =>
    rw [hmergeHomes, hmerges, htimelines]
    exact h.merges
  case speeds =>
    rw [hvehicles, htimelines]
    exact h.speeds
  case walks =>
    rw [hpedestrians, htimelines]
    exact h.walks
  case others =>
    intro kind i e hk he
    obtain ⟨e', he', hview⟩ := hsame.symm.get? he
    exact hview ▸ h.others kind i e' hk he'

theorem attached (h : s.Shelved) {owner : String} {plan : RoutePlan} {route : Option Nat}
    (ha : s.Attached owner plan route t) : t.Shelved := by
  cases ha with
  | refused j _ => exact { h with }
  | granted _ _ _ => exact h.congr (h.cast.modify fun _ _ => ⟨rfl, rfl⟩) (.symm (.modify fun _ _ => rfl)) rfl rfl rfl

theorem stored (h : s.Shelved) {event : Event} (hs : s.Stored event t) : t.Shelved := by
  cases hs with
  | ego _ _ => exact { h with }
  | stray _ _ => exact { h with }
  | listed _ _ =>
    refine h.congr (h.cast.modify fun e _ => ⟨Staging.withEvent_id _ e, Staging.withEvent_kind _ e⟩) ?_ rfl rfl rfl
    exact .symm (.modify fun e _ => by unfold Staging.withEvent; dsimp only; split <;> rfl)

theorem fedStage (h : s.Shelved) {actor : String} {v : Entity} (hfind : s.cast.find? actor = some v)
    (hkind : v.kind = .vehicle) {g : Feeding} (hid : g.entity.id = v.id) (hk : g.entity.kind = v.kind)
    (hramps : ∃ fed, Allotted (fun j => if j = v.id then some g.entity.rampTimeline else s.homes j)
      g.counters.ramps g.timelines.ramps fed)
    (hmerges : ∃ fed, Allotted (fun j => if j = v.id then some g.entity.mergeTimeline else s.mergeHomes j)
      g.counters.merges g.timelines.merges fed)
    (hspeeds : g.timelines.speeds = s.timelines.speeds) (hwalks : g.timelines.walks = s.timelines.walks) :
    (s.fedStage actor g).Shelved := by
  have hget (kind : EntityKind) (i : Nat) : ((s.fedStage actor g).cast.ofKind kind).get? i =
      if kind = .vehicle ∧ i = v.id then some g.entity else (s.cast.ofKind kind).get? i := by
    rw [← hkind]
    exact h.cast.get?_put hfind g.entity kind i
  have hvehicle (i : Nat) : (s.fedStage actor g).cast.vehicles.get? i =
      if i = v.id then some g.entity else s.cast.vehicles.get? i := by
    have hv := hget .vehicle i
    simp only [true_and] at hv
    exact hv
  have hv : s.cast.vehicles.get? v.id = some v := by
    have := h.cast.get?_of_find? hfind
    rwa [hkind] at this
  constructor
  case cast =>
    refine h.cast.modify fun e he => ?_
    cases hfind.symm.trans he
    exact ⟨hid, hk⟩
  case ramps =>
    have hhomes : (s.fedStage actor g).homes =
        fun j => if j = v.id then some g.entity.rampTimeline else s.homes j := by
      funext j
      rw [homes, hvehicle]
      split <;> rfl
    rw [hhomes]
    exact hramps
  case merges =>
    have hhomes : (s.fedStage actor g).mergeHomes =
        fun j => if j = v.id then some g.entity.mergeTimeline else s.mergeHomes j := by
      funext j
      rw [mergeHomes, hvehicle]
      split <;> rfl
    rw [hhomes]
    exact hmerges
  case speeds =>
    have hthere : (fun i => ((s.fedStage actor g).cast.vehicles.get? i).isSome) =
        fun i => (s.cast.vehicles.get? i).isSome := by
      funext i
      rw [hvehicle]
      split
      next hi => rw [hi, hv]; rfl
      next => rfl
    rw [hthere]
    exact hspeeds ▸ h.speeds
  case walks =>
    have hthere : (fun i => ((s.fedStage actor g).cast.pedestrians.get? i).isSome) =
        fun i => (s.cast.pedestrians.get? i).isSome := by
      funext i
      have := hget .pedestrian i
      rw [if_neg (by simp)] at this
      exact congrArg Option.isSome this
    rw [hthere]
    exact hwalks ▸ h.walks
  case others =>
    intro kind i e hne he
    rw [hget, if_neg fun hi => hne hi.1] at he
    exact h.others kind i e hne he

theorem homes_self (h : s.cast.WellFormed) {actor : String} {v : Entity} (hfind : s.cast.find? actor = some v)
    (hkind : v.kind = .vehicle) :
    s.homes v.id = some v.rampTimeline ∧ s.mergeHomes v.id = some v.mergeTimeline := by
  have hv := h.get?_of_find? hfind
  rw [hkind] at hv
  have hv' : s.cast.vehicles.get? v.id = some v := hv
  exact ⟨by rw [homes, hv']; rfl, by rw [mergeHomes, hv']; rfl⟩

theorem ite_self_eq {β : Type} {f : Nat → β} {i : Nat} {b : β} (h : f i = b) :
    (fun j => if j = i then b else f j) = f := by
  funext j
  split
  next hj => rw [hj, h]
  next => rfl

theorem fed (h : s.Shelved) {actor : String} {cue : Cue} {f : Feed} (hcue : cue.value.isFinite = true)
    (hf : s.Fed actor cue f t) : t.Shelved := by
  cases hf with
  | unmoved _ _ => exact h
  | ramp hfind hkind rate stopKind stopValue =>
    rename_i v
    obtain ⟨hhome, hmergeHome⟩ := homes_self h.cast hfind hkind
    obtain ⟨ramps, hramps⟩ := h.ramps
    have hown := hramps.own?_home hhome
    have hmerges := h.merges
    rw [← ite_self_eq hmergeHome] at hmerges
    cases hid : v.rampTimeline with
    | some id =>
      rw [hid] at hown hhome
      have hself : own? v.rampTimeline = some id := by rw [hid, hown]
      rw [Feeding.addRamp_of_own hself]
      refine h.fedStage hfind hkind rfl rfl ?_ hmerges rfl rfl
      dsimp only
      rw [hid, ite_self_eq hhome]
      exact ⟨_, hramps.store hhome hcue _⟩
    | none =>
      rw [hid] at hown hhome
      rw [Feeding.addRamp_of_none (by rw [hid, hown])]
      exact h.fedStage hfind hkind rfl rfl ⟨_, hramps.claim hhome hcue _⟩ hmerges rfl rfl
  | merge hfind hkind target offset duration =>
    rename_i v
    obtain ⟨hrampHome, hhome⟩ := homes_self h.cast hfind hkind
    obtain ⟨merges, hmerges⟩ := h.merges
    have hown := hmerges.own?_home hhome
    have hramps := h.ramps
    rw [← ite_self_eq hrampHome] at hramps
    cases hid : v.mergeTimeline with
    | some id =>
      rw [hid] at hown hhome
      have hself : own? v.mergeTimeline = some id := by rw [hid, hown]
      rw [Feeding.addMerge_of_own hself]
      refine h.fedStage hfind hkind rfl rfl hramps ?_ rfl rfl
      dsimp only
      rw [hid, ite_self_eq hhome]
      exact ⟨_, hmerges.store hhome hcue _⟩
    | none =>
      rw [hid] at hown hhome
      rw [Feeding.addMerge_of_none (by rw [hid, hown])]
      exact h.fedStage hfind hkind rfl rfl hramps ⟨_, hmerges.claim hhome hcue _⟩ rfl rfl
  | speed hfind hkind target =>
    have hv := h.cast.get?_of_find? hfind
    rw [hkind] at hv
    rw [Feeding.addSpeed_eq, Stage.fedStage, Cast.modify_find? hfind]
    exact { h with speeds := h.speeds.store (Option.isSome_iff_exists.2 ⟨_, hv⟩) hcue _ }
  | walk hfind hkind target hidle =>
    have hp := h.cast.get?_of_find? hfind
    rw [hkind] at hp
    rw [Feeding.addWalk_eq, Stage.fedStage, Cast.modify_find? hfind]
    exact { h with walks := h.walks.store (Option.isSome_iff_exists.2 ⟨_, hp⟩) hcue _ }

theorem lasts : Staging.Lasts Shelved where
  reads := fun _ _ h => { h with }
  reroutes := fun _ _ _ _ _ h ha => h.attached ha
  feeds := fun _ _ _ _ _ h hcue _ hf => h.fed hcue hf
  keeps := fun _ _ _ h hs => h.stored hs

end Shelved

end Stage

open Counters (sharedTimeline)

section Scenes

/-- The timelines of one kind: an empty one that is shared, and those of one vehicle each, which have
nodes and the ids that come next. -/
structure Scene.Allots (s : Scene) (m : KeyMap String (Timeline π)) (idOf : Entity → Option String) : Prop where
  id_eq : ∀ id t, m.get? id = some t → t.id = id
  shared : ∃ t, m.get? sharedTimeline = some t ∧ t.nodes = []
  ids : ∃ count, ∀ id, (m.get? id).isSome ↔ id = sharedTimeline ∨ ∃ n < count, id = toString (n + 2)
  own : ∀ id t, m.get? id = some t → id ≠ sharedTimeline →
    t.nodes ≠ [] ∧ ∃! i, ∃ v, s.vehicles.get? i = some v ∧ idOf v = some id
  vehicles : ∀ i v, s.vehicles.get? i = some v → ∃ id t, idOf v = some id ∧ m.get? id = some t
  others : ∀ kind i e, kind ≠ .vehicle → (s.ofKind kind).get? i = some e → idOf e = none

structure Timelines.Assigned (m : KeyMap String (Timeline π)) (entities : KeyMap Nat Entity) : Prop where
  id_eq : ∀ id t, m.get? id = some t → t.id = id
  used : ∀ id t, m.get? id = some t → t.nodes ≠ [] ∧ ∃ i e, entities.get? i = some e ∧ e.id = i ∧ id = toString i

structure Scene.TimelinesAllotted (s : Scene) : Prop where
  ramps : s.Allots s.timelines.ramps Entity.rampTimeline
  merges : s.Allots s.timelines.merges Entity.mergeTimeline
  speeds : Timelines.Assigned s.timelines.speeds s.vehicles
  walks : Timelines.Assigned s.timelines.walks s.pedestrians

structure Timelines.Ordered (t : Timelines) : Prop where
  ramps : ∀ id r, t.ramps.get? id = some r → r.Ordered
  merges : ∀ id m, t.merges.get? id = some m → m.Ordered
  speeds : ∀ id s, t.speeds.get? id = some s → s.Ordered
  walks : ∀ id w, t.walks.get? id = some w → w.Ordered

theorem Timelines.Personal.ordered {owns : Nat → Bool} {m : KeyMap String (Timeline π)} (h : Personal owns m)
    {id : String} {t : Timeline π} (ht : m.get? id = some t) : t.Ordered := by
  obtain ⟨i, l, -, -, -, hl, rfl⟩ := h id t ht
  exact (Timeline.Ordered.empty id).addAll hl

theorem Timelines.Personal.assigned {c : Cast} (hc : c.WellFormed) (kind : EntityKind)
    {m : KeyMap String (Timeline π)} (h : Personal (fun i => ((c.ofKind kind).get? i).isSome) m) :
    Assigned m (c.ofKind kind) := by
  constructor
  case id_eq =>
    intro id t ht
    obtain ⟨i, l, -, -, -, -, rfl⟩ := h id t ht
    exact Timeline.id_addAll _ l
  case used =>
    intro id t ht
    obtain ⟨i, l, hi, hid, hl, -, rfl⟩ := h id t ht
    obtain ⟨e, he⟩ := Option.isSome_iff_exists.1 hi
    exact ⟨Timeline.nodes_empty_addAll_ne_nil hl id, i, e, he, hc.id_eq _ _ _ he, hid⟩

theorem Timelines.Allotted.allots {home : Nat → Option (Option String)} {count : Nat}
    {m : KeyMap String (Timeline π)} {fed : Nat → List (Node π)} (h : Allotted home count m fed) {s : Scene}
    {idOf : Entity → Option String}
    (hvehicles : ∀ i, (s.vehicles.get? i).map idOf = (home i).map fun own => some (own.getD sharedTimeline))
    (hothers : ∀ kind i e, kind ≠ .vehicle → (s.ofKind kind).get? i = some e → idOf e = none) :
    s.Allots m idOf := by
  have hidOf {i : Nat} {v : Entity} (hv : s.vehicles.get? i = some v) :
      ∃ own, home i = some own ∧ idOf v = some (own.getD sharedTimeline) := by
    have hi := hvehicles i
    rw [hv, Option.map_some] at hi
    obtain ⟨own, hown, heq⟩ := Option.map_eq_some_iff.1 hi.symm
    exact ⟨own, hown, heq.symm⟩
  constructor
  case id_eq =>
    intro id t ht
    rcases h.get?_cases ht with ⟨-, rfl⟩ | ⟨i, -, rfl⟩
    · rfl
    · exact Timeline.id_addAll _ _
  case shared => exact ⟨_, h.shared, rfl⟩
  case ids =>
    refine ⟨count, fun id => ⟨fun hid => ?_, ?_⟩⟩
    · obtain ⟨t, ht⟩ := Option.isSome_iff_exists.1 hid
      exact h.keys id t ht
    · rintro (rfl | ⟨n, hn, rfl⟩)
      · rw [h.shared]
        rfl
      · obtain ⟨i, hi⟩ := h.taken n hn
        rw [h.holds i _ hi]
        rfl
  case own =>
    intro id t ht hne
    rcases h.get?_cases ht with ⟨hid, -⟩ | ⟨i, hi, rfl⟩
    · exact (hne hid).elim
    · refine ⟨Timeline.nodes_empty_addAll_ne_nil (h.used i id hi) id, i, ?_, fun j ⟨v, hv, hid⟩ => ?_⟩
      · have hmap := hvehicles i
        rw [hi, Option.map_some] at hmap
        exact Option.map_eq_some_iff.1 hmap
      · obtain ⟨own, hown, heq⟩ := hidOf hv
        rw [hid, Option.some.injEq] at heq
        cases own with
        | none => exact (hne heq).elim
        | some own => exact h.apart j i id (heq ▸ hown) hi
  case vehicles =>
    intro i v hv
    obtain ⟨own, hown, heq⟩ := hidOf hv
    exact ⟨_, _, heq, h.get?_home hown⟩
  case others => exact hothers

variable {sources : Sources} {map : RoadMap} {root : Markup.Element} {staged : Staged}

theorem told_shelved {sections : Sections} (h : Sections.ofRoot root = .ok sections) :
    (told sources map root).2.Shelved :=
  Stage.Shelved.lasts.told h (.of_unplayed (openStage_unplayed sources map root sections))

theorem stage_timelines_allotted (h : (stage sources root).run map = .ok staged) :
    staged.scene.TimelinesAllotted := by
  obtain ⟨sections, hroot, rfl⟩ := run_stage h
  have htold : (told sources map root).2.Shelved := told_shelved hroot
  have hwell : (finalStage sources map root).cast.WellFormed := (finalStage_filed hroot).cast
  have hget (i : Nat) : (finalStage sources map root).cast.vehicles.get? i =
      ((told sources map root).2.cast.vehicles.get? i).map Entity.withSharedTimelines :=
    KeyMap.get?_map _ _ _
  have hothers : ∀ kind i e, kind ≠ .vehicle →
      ((finalStage sources map root).scene.withReferences.ofKind kind).get? i = some e →
        e.timelineIds = (none, none) := by
    intro kind i e hne he
    have hsame : (finalStage sources map root).scene.withReferences.ofKind kind =
        (told sources map root).2.cast.ofKind kind := by
      cases kind <;> first | exact (hne rfl).elim | rfl
    rw [hsame] at he
    exact htold.others kind i e hne he
  constructor
  case ramps =>
    obtain ⟨fed, hfed⟩ := htold.ramps
    refine hfed.allots (fun i => ?_) fun kind i e hne he => congrArg Prod.fst (hothers kind i e hne he)
    have hv := hget i
    change Option.map _ ((finalStage sources map root).cast.vehicles.get? i) = _
    rw [hv, Stage.homes, Option.map_map, Option.map_map]
    rfl
  case merges =>
    obtain ⟨fed, hfed⟩ := htold.merges
    refine hfed.allots (fun i => ?_) fun kind i e hne he => congrArg Prod.snd (hothers kind i e hne he)
    have hv := hget i
    change Option.map _ ((finalStage sources map root).cast.vehicles.get? i) = _
    rw [hv, Stage.mergeHomes, Option.map_map, Option.map_map]
    rfl
  case speeds =>
    refine Personal.assigned hwell .vehicle ?_
    have hthere : (fun i => ((finalStage sources map root).cast.vehicles.get? i).isSome) =
        fun i => ((told sources map root).2.cast.vehicles.get? i).isSome := by
      funext i
      rw [hget, Option.isSome_map]
    change Personal (fun i => ((finalStage sources map root).cast.vehicles.get? i).isSome) _
    rw [hthere]
    exact htold.speeds
  case walks => exact Personal.assigned hwell .pedestrian htold.walks

theorem sample_timelines_allotted : ∃ staged, (stage .bare Sample.root).run .blank = .ok staged ∧
    staged.scene.TimelinesAllotted ∧ staged.scene.timelines.ramps.keys = ["1", "2"] ∧
    staged.scene.timelines.speeds.keys = ["1"] := by
  have h := Sample.stage_root .blank
  exact ⟨_, h, stage_timelines_allotted h, by decide +kernel, by decide +kernel⟩

/-- Nodes with finite values are in order whatever the sequence they come in, and so are those of every
scene. Distances are those doubles have when they are subtracted. -/
theorem timelines_ordered :
    (∀ (π : Type) (id : String) (l : List (Node π)) (n : Node π), (∀ m ∈ l, m.cue.value.isFinite = true) →
      n.cue.value.isFinite = true →
        ((Timeline.empty id).addAll l).Ordered ∧ ((Timeline.empty id).addAll l).Takes n) ∧
    ∀ sources map root staged, (stage sources root).run map = .ok staged → staged.scene.timelines.Ordered := by
  constructor
  · intro π id l n hl hn
    have hordered := (Timeline.Ordered.empty id).addAll hl
    exact ⟨hordered, hordered.takes hn⟩
  · intro sources map root staged h
    obtain ⟨sections, hroot, rfl⟩ := run_stage h
    have htold : (told sources map root).2.Shelved := told_shelved hroot
    obtain ⟨ramps, hramps⟩ := htold.ramps
    obtain ⟨merges, hmerges⟩ := htold.merges
    exact ⟨fun _ _ => hramps.ordered, fun _ _ => hmerges.ordered, fun _ _ => htold.speeds.ordered,
      fun _ _ => htold.walks.ordered⟩

theorem sample_timelines_ordered :
    (∃ staged, (stage .bare Sample.root).run .blank = .ok staged ∧ staged.scene.timelines.Ordered ∧
      (staged.scene.timelines.ramps.get? "2").map (·.nodes.length) = some 2) ∧
    ∃ t : Timeline Speed, t = (Timeline.empty "1").addAll [Cue.node ⟨5.0, .time, .none⟩ ⟨9.0⟩] ∧ t.Ordered ∧
      t.Takes (Cue.node ⟨2.0, .distance, .none⟩ ⟨0.0⟩) := by
  have h := Sample.stage_root .blank
  have htimed : ∀ m ∈ [Cue.node ⟨5.0, .time, .none⟩ (⟨9.0⟩ : Speed)], m.cue.value.isFinite = true := by
    intro m hm
    rw [List.mem_singleton.1 hm]
    rfl
  exact ⟨⟨_, h, timelines_ordered.2 _ _ _ _ h, by decide +kernel⟩,
    ⟨_, rfl, timelines_ordered.1 _ _ _ (Cue.node ⟨2.0, .distance, .none⟩ ⟨0.0⟩) htimed rfl⟩⟩

end Scenes

end Scenography
