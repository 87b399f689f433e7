import Scenography.Proofs.Allotment
import Scenography.Proofs.LaneChange
/-!
Entities that have timelines and counters in common and are fed one after the other. A feed puts one node on one
timeline, which is that of the entity alone, or it changes nothing.
-/

namespace Scenography

open Counters (sharedTimeline)

variable {π : Type}

namespace Timelines

def Clashes (m : KeyMap String (Timeline π)) (id : String) (cue : Cue) : Prop :=
  ∃ t, m.get? id = some t ∧ ∃ n ∈ t.nodes, n.cue.clashes cue = true

structure Gains (m : KeyMap String (Timeline π)) (id : String) (n : Node π) (m' : KeyMap String (Timeline π)) :
    Prop where
  free : ¬Clashes m id n.cue
  others : ∀ id', id' ≠ id → m'.get? id' = m.get? id'
  gained : ∃ front back t, ((m.get? id).getD (.empty id)).nodes = front ++ back ∧
    m'.get? id = some t ∧ t.id = ((m.get? id).getD (.empty id)).id ∧ t.nodes = front ++ n :: back

/-- Where an entity's nodes go: to the timeline it has, or to that of the next id, which none has yet. -/
inductive Claims (m : KeyMap String (Timeline π)) (count : Nat) : Option String → String → Nat → Prop
  | own {id : String} (h : (m.get? id).isSome) : Claims m count (some id) id count
  | next (h : m.get? (toString (count + 2)) = none) : Claims m count none (toString (count + 2)) (count + 1)

variable {m m' : KeyMap String (Timeline π)} {id : String} {cue : Cue} {payload : π}

theorem store?_eq_none_iff : store? m id cue payload = none ↔ Clashes m id cue := by
  rw [store?, Option.map_eq_none_iff, Timeline.add?, Clashes]
  cases hid : m.get? id with
  | none => simp [Timeline.empty]
  | some t => simp

theorem gains_of_store? (h : store? m id cue payload = some m') : Gains m id (cue.node payload) m' := by
  have hfree : ¬Clashes m id cue := by
    intro hclashes
    have hnone : store? m id cue payload = none := store?_eq_none_iff.2 hclashes
    rw [h] at hnone
    cases hnone
  obtain ⟨t, hadd, rfl⟩ := Option.map_eq_some_iff.1 h
  obtain ⟨rfl, -⟩ := Timeline.add?_eq_some hadd
  obtain ⟨front, back, hnodes, hplace⟩ := Timeline.place_splits (cue.node payload) ((m.get? id).getD (.empty id)).nodes
  exact ⟨hfree, fun id' hne => KeyMap.get?_insert_of_ne hne _ _,
    front, back, _, hnodes, KeyMap.get?_insert_self _ _ _, rfl, hplace⟩

theorem Claims.eq_some_of_clashes {count count' : Nat} {slot : Option String} (h : Claims m count slot id count')
    (hclashes : Clashes m id cue) : slot = some id := by
  cases h with
  | own _ => rfl
  | next hnew =>
    obtain ⟨t, ht, -⟩ := hclashes
    rw [hnew] at ht
    cases ht

theorem exists_store? (h : m.get? id = none) (cue : Cue) (payload : π) : ∃ m', store? m id cue payload = some m' := by
  rw [← Option.ne_none_iff_exists', ne_eq, store?_eq_none_iff]
  rintro ⟨t, ht, -⟩
  rw [h] at ht
  cases ht

section Held

variable {home : Nat → Option (Option String)} {count count' : Nat} {fed : Nat → List (Node π)} {i : Nat}
  {slot : Option String}

theorem Held.claims (h : Held home count m fed) (hi : home i = some slot) :
    ∃ id count', Claims m count slot id count' ∧ id ≠ sharedTimeline ∧ ∀ j, j ≠ i → home j ≠ some (some id) := by
  cases slot with
  | some id =>
    obtain ⟨n, -, rfl⟩ := h.own i id hi
    refine ⟨_, count, .own ?_, toString_ne_sharedTimeline n, fun j hji hj => hji (h.apart j i _ hj hi)⟩
    rw [h.holds i _ hi]
    rfl
  | none =>
    refine ⟨_, _, .next (h.unused count le_rfl), toString_ne_sharedTimeline count, fun j _ hj => ?_⟩
    obtain ⟨n, hn, hid⟩ := h.own j _ hj
    have := toString_injective hid
    omega

theorem Held.gain (h : Held home count m fed) (hi : home i = some slot) (hclaims : Claims m count slot id count')
    (hstore : store? m id cue payload = some m') :
    ∃ fed', Held (fun j => if j = i then some (some id) else home j) count' m' fed' := by
  have hm : (store? m id cue payload).getD m = m' := by rw [hstore, Option.getD_some]
  cases hclaims with
  | own _ =>
    have hstored := h.store hi cue payload
    rw [hm] at hstored
    rw [Stage.Shelved.ite_self_eq hi]
    exact ⟨_, hstored⟩
  | next _ =>
    have hclaimed := h.claim hi cue payload
    rw [hm] at hclaimed
    exact ⟨_, hclaimed⟩

end Held

end Timelines

namespace Feeding

open Timelines (Claims own? store?)

variable {f : Feeding} {id : String} {count : Nat}

theorem own?_some (hid : id ≠ sharedTimeline) : own? (some id) = some id := by
  simpa [own?] using hid

/-- Where a node has no place nothing has been claimed for it: a timeline that is new has place for any. -/
theorem own?_of_claims {m : KeyMap String (Timeline π)} {slot : Option String} {count' : Nat}
    (h : Claims m count slot id count') (hid : id ≠ sharedTimeline) :
    (own? slot = some id ∧ slot = some id ∧ count' = count) ∨
    (own? slot = none ∧ id = toString (count + 2) ∧ count' = count + 1 ∧
      ∀ cue payload, ∃ m', store? m id cue payload = some m') := by
  cases h with
  | own _ => exact .inl ⟨own?_some hid, rfl, rfl⟩
  | next hnew => exact .inr ⟨rfl, rfl, rfl, Timelines.exists_store? hnew⟩

theorem addRamp_eq (h : Claims f.timelines.ramps f.counters.ramps f.entity.rampTimeline id count)
    (hid : id ≠ sharedTimeline) (cue : Cue) (r : Ramp) :
    f.addRamp cue r = (store? f.timelines.ramps id cue r).elim (false, f) fun ramps =>
      (true, ⟨{ f.timelines with ramps }, { f.counters with ramps := count },
        { f.entity with rampTimeline := some id }⟩) := by
  obtain ⟨timelines, counters, entity⟩ := f
  obtain ⟨hown, hslot, rfl⟩ | ⟨hown, rfl, rfl, hplace⟩ := own?_of_claims h hid
  · have hentity : { entity with rampTimeline := some id } = entity := by rw [← hslot]
    simp only [addRamp, claimRamps, hown, hentity]
    cases store? timelines.ramps id cue r <;> rfl
  · obtain ⟨ramps, hstore⟩ := hplace cue r
    simp only [addRamp, claimRamps, hown, Counters.nextRamp, hstore]
    rfl

theorem addMerge_eq (h : Claims f.timelines.merges f.counters.merges f.entity.mergeTimeline id count)
    (hid : id ≠ sharedTimeline) (cue : Cue) (r : Merge) :
    f.addMerge cue r = (store? f.timelines.merges id cue r).elim (false, f) fun merges =>
      (true, ⟨{ f.timelines with merges }, { f.counters with merges := count },
        { f.entity with mergeTimeline := some id }⟩) := by
  obtain ⟨timelines, counters, entity⟩ := f
  obtain ⟨hown, hslot, rfl⟩ | ⟨hown, rfl, rfl, hplace⟩ := own?_of_claims h hid
  · have hentity : { entity with mergeTimeline := some id } = entity := by rw [← hslot]
    simp only [addMerge, claimMerges, hown, hentity]
    cases store? timelines.merges id cue r <;> rfl
  · obtain ⟨merges, hstore⟩ := hplace cue r
    simp only [addMerge, claimMerges, hown, Counters.nextMerge, hstore]
    rfl

end Feeding

structure Troupe where
  timelines : Timelines
  counters : Counters
  members : List Entity

namespace Troupe

open Timelines (Claims Clashes Gains Held)

variable {c c' : Troupe} {i : Nat} {e : Entity} {cue : Cue}

def put (c : Troupe) (i : Nat) (f : Feeding) : Troupe :=
  ⟨f.timelines, f.counters, c.members.set i f.entity⟩

def feed (c : Troupe) (i : Nat) (cue : Cue) (feed : Feed) : Bool × Troupe :=
  match c.members[i]? with
  | none => (false, c)
  | some e => (Feeding.add ⟨c.timelines, c.counters, e⟩ cue feed).map id (c.put i)

structure Fresh (c : Troupe) : Prop where
  timelines : c.timelines = .start
  ramps : c.counters.ramps = 0
  merges : c.counters.merges = 0
  unfed : ∀ e ∈ c.members, e.timelineIds = (none, none)
  distinct : (c.members.map fun e => (e.kind, e.id)).Nodup

inductive Reached : Troupe → Prop
  | fresh {c : Troupe} (h : c.Fresh) : Reached c
  | fed {c : Troupe} (h : Reached c) (i : Nat) (cue : Cue) (feed : Feed) : Reached (c.feed i cue feed).2

def Alone (c : Troupe) (i : Nat) (has : Entity → Prop) : Prop :=
  ∀ j e, j ≠ i → c.members[j]? = some e → ¬has e

/-- Why a feed may come to nothing: the member has no timelines for it, it only stands there from the start on, or the
node has no place on its timeline. -/
inductive Spared (c : Troupe) (e : Entity) (cue : Cue) : Feed → Prop
  | unmoved {feed : Feed} (hvehicle : e.kind ≠ .vehicle)
    (hwalker : ∀ target, feed = .speed target → e.kind ≠ .pedestrian) : c.Spared e cue feed
  | idle (hkind : e.kind = .pedestrian) {target : Float} (h : Feed.isIdle cue target = true) :
    c.Spared e cue (.speed target)
  | ramp (hkind : e.kind = .vehicle) {id : String} (hid : e.rampTimeline = some id)
    (h : Clashes c.timelines.ramps id cue) (rate : Float) (stopKind : StopKind) (stopValue : Float) :
    c.Spared e cue (.ramp rate stopKind stopValue)
  | merge (hkind : e.kind = .vehicle) {id : String} (hid : e.mergeTimeline = some id)
    (h : Clashes c.timelines.merges id cue) (target : Int64) (offset : Option Float) (duration : Float) :
    c.Spared e cue (.merge target offset duration)
  | speed (hkind : e.kind = .vehicle) (h : Clashes c.timelines.speeds (toString e.id) cue) (target : Float) :
    c.Spared e cue (.speed target)
  | walk (hkind : e.kind = .pedestrian) (h : Clashes c.timelines.walks (toString e.id) cue) (target : Float) :
    c.Spared e cue (.speed target)

inductive Gained (c : Troupe) (i : Nat) (e : Entity) (cue : Cue) : Feed → Troupe → Prop
  | ramp (hkind : e.kind = .vehicle) {id : String} {count : Nat} {ramps : KeyMap String (Timeline Ramp)}
    (rate : Float) (stopKind : StopKind) (stopValue : Float) (hid : id ≠ sharedTimeline)
    (hclaims : Claims c.timelines.ramps c.counters.ramps e.rampTimeline id count)
    (hgains : Gains c.timelines.ramps id (cue.node (Feed.rampOf rate stopKind stopValue)) ramps)
    (halone : c.Alone i (·.rampTimeline = some id)) :
    c.Gained i e cue (.ramp rate stopKind stopValue) {
      timelines := { c.timelines with ramps }
      counters := { c.counters with ramps := count }
      members := c.members.set i { e with rampTimeline := some id } }
  | merge (hkind : e.kind = .vehicle) {id : String} {count : Nat} {merges : KeyMap String (Timeline Merge)}
    (target : Int64) (offset : Option Float) (duration : Float) (hid : id ≠ sharedTimeline)
    (hclaims : Claims c.timelines.merges c.counters.merges e.mergeTimeline id count)
    (hgains : Gains c.timelines.merges id (cue.node (Feed.mergeOf target offset duration)) merges)
    (halone : c.Alone i (·.mergeTimeline = some id)) :
    c.Gained i e cue (.merge target offset duration) {
      timelines := { c.timelines with merges }
      counters := { c.counters with merges := count }
      members := c.members.set i { e with mergeTimeline := some id } }
  | speed (hkind : e.kind = .vehicle) {speeds : KeyMap String (Timeline Speed)} (target : Float)
    (hgains : Gains c.timelines.speeds (toString e.id) (cue.node ⟨target⟩) speeds)
    (halone : c.Alone i fun e' => e'.kind = .vehicle ∧ toString e'.id = toString e.id) :
    c.Gained i e cue (.speed target) { c with timelines := { c.timelines with speeds } }
  | walk (hkind : e.kind = .pedestrian) {walks : KeyMap String (Timeline Walk)} (target : Float)
    (hidle : Feed.isIdle cue target = false)
    (hgains : Gains c.timelines.walks (toString e.id) (cue.node ⟨target, (e.pose.map (·.angle)).getD 0.0⟩) walks)
    (halone : c.Alone i fun e' => e'.kind = .pedestrian ∧ toString e'.id = toString e.id) :
    c.Gained i e cue (.speed target) { c with timelines := { c.timelines with walks } }

def homes (c : Troupe) (idOf : Entity → Option String) (i : Nat) : Option (Option String) :=
  c.members[i]?.map idOf

structure Kept (c : Troupe) : Prop where
  distinct : (c.members.map fun e => (e.kind, e.id)).Nodup
  ramps : ∃ fed, Held (c.homes (·.rampTimeline)) c.counters.ramps c.timelines.ramps fed
  merges : ∃ fed, Held (c.homes (·.mergeTimeline)) c.counters.merges c.timelines.merges fed

theorem Fresh.kept (h : c.Fresh) : c.Kept := by
  have hnobody {idOf : Entity → Option String} (hidOf : ∀ e ∈ c.members, idOf e = none) (i : Nat)
      (id : Option String) (hi : c.homes idOf i = some id) : id = none := by
    obtain ⟨e, he, rfl⟩ := Option.map_eq_some_iff.1 hi
    exact hidOf e (List.mem_of_getElem? he)
  constructor
  case distinct => exact h.distinct
  case ramps =>
    rw [h.ramps, h.timelines]
    exact ⟨_, .start (hnobody fun e he => congrArg Prod.fst (h.unfed e he)) (KeyMap.get?_insert_self _ _ _)
      fun id hne => KeyMap.get?_insert_of_ne hne _ _⟩
  case merges =>
    rw [h.merges, h.timelines]
    exact ⟨_, .start (hnobody fun e he => congrArg Prod.snd (h.unfed e he)) (KeyMap.get?_insert_self _ _ _)
      fun id hne => KeyMap.get?_insert_of_ne hne _ _⟩

section Members

variable (he : c.members[i]? = some e)

include he

theorem put_self : c.put i ⟨c.timelines, c.counters, e⟩ = c := by
  have hset : c.members.set i e = c.members := by
    apply List.ext_getElem?
    intro j
    rw [List.getElem?_set]
    split
    next hij =>
      obtain ⟨hlt, -⟩ := List.getElem?_eq_some_iff.1 he
      rw [if_pos hlt, ← hij, he]
    next => rfl
  rw [put, hset]

theorem put_timelines (timelines : Timelines) : c.put i ⟨timelines, c.counters, e⟩ = { c with timelines } := by
  have hself := congrArg members (put_self he)
  simp only [put] at hself ⊢
  rw [hself]

theorem homes_put (f : Feeding) (idOf : Entity → Option String) :
    (c.put i f).homes idOf = fun j => if j = i then some (idOf f.entity) else c.homes idOf j := by
  obtain ⟨hlt, -⟩ := List.getElem?_eq_some_iff.1 he
  funext j
  rw [homes, put, List.getElem?_set]
  by_cases hij : i = j
  · rw [if_pos hij, if_pos hlt, if_pos hij.symm, Option.map_some]
  · rw [if_neg hij, if_neg (Ne.symm hij)]
    rfl

theorem homes_self (idOf : Entity → Option String) : c.homes idOf i = some (idOf e) := by
  rw [homes, he, Option.map_some]

omit he in
theorem alone_of_homes {idOf : Entity → Option String} {id : String}
    (h : ∀ j, j ≠ i → c.homes idOf j ≠ some (some id)) : c.Alone i (idOf · = some id) := by
  intro j e' hji he' hid
  exact h j hji (by rw [homes_self he', hid])

theorem Kept.put (h : c.Kept) {f : Feeding} (hself : (f.entity.kind, f.entity.id) = (e.kind, e.id))
    (hramps : ∃ fed, Held (fun j => if j = i then some f.entity.rampTimeline else c.homes (·.rampTimeline) j)
      f.counters.ramps f.timelines.ramps fed)
    (hmerges : ∃ fed, Held (fun j => if j = i then some f.entity.mergeTimeline else c.homes (·.mergeTimeline) j)
      f.counters.merges f.timelines.merges fed) : (c.put i f).Kept where
  distinct := by
    have hsame := congrArg (fun c : Troupe => c.members.map fun e => (e.kind, e.id)) (put_self he)
    simp only [Troupe.put, List.map_set] at hsame
    rw [Troupe.put, List.map_set, hself, hsame]
    exact h.distinct
  ramps := by
    rw [homes_put he]
    exact hramps
  merges := by
    rw [homes_put he]
    exact hmerges

theorem Kept.alone (h : c.Kept) {kind : EntityKind} (hkind : e.kind = kind) :
    c.Alone i fun e' => e'.kind = kind ∧ toString e'.id = toString e.id := by
  rintro j e' hji he' ⟨hk, hid⟩
  have hlt : i < (c.members.map fun e => (e.kind, e.id)).length := by
    rw [List.length_map]
    exact (List.getElem?_eq_some_iff.1 he).1
  have hsame : (c.members.map fun e => (e.kind, e.id))[i]? = (c.members.map fun e => (e.kind, e.id))[j]? := by
    rw [List.getElem?_map, List.getElem?_map, he, he', Option.map_some, Option.map_some, hk, hkind,
      toString_injective hid]
  exact hji ((List.getElem?_inj hlt h.distinct).1 hsame).symm

end Members

inductive Outcome (c : Troupe) (i : Nat) (e : Entity) (cue : Cue) (feed : Feed) : Bool × Troupe → Prop
  | spared (h : c.Spared e cue feed) : c.Outcome i e cue feed (false, c)
  | gained {c' : Troupe} (h : c.Gained i e cue feed c') (hkept : c'.Kept) : c.Outcome i e cue feed (true, c')

namespace Kept

variable (h : c.Kept) (he : c.members[i]? = some e)

include h he

theorem addRamp_outcome (hkind : e.kind = .vehicle) (rate : Float) (stopKind : StopKind) (stopValue : Float) :
    c.Outcome i e cue (.ramp rate stopKind stopValue)
      ((Feeding.addRamp ⟨c.timelines, c.counters, e⟩ cue (Feed.rampOf rate stopKind stopValue)).map id (c.put i)) := by
  obtain ⟨fed, hramps⟩ := h.ramps
  obtain ⟨id, count, hclaims, hid, hsole⟩ := hramps.claims (homes_self he _)
  rw [Feeding.addRamp_eq hclaims hid]
  cases hstore : Timelines.store? c.timelines.ramps id cue (Feed.rampOf rate stopKind stopValue) with
  | none =>
    have hclashes := Timelines.store?_eq_none_iff.1 hstore
    rw [Option.elim_none, Prod.map_apply, put_self he]
    exact .spared (.ramp hkind (hclaims.eq_some_of_clashes hclashes) hclashes _ _ _)
  | some ramps =>
    have hmerges := h.merges
    rw [← Stage.Shelved.ite_self_eq (homes_self he _)] at hmerges
    exact .gained (.ramp hkind _ _ _ hid hclaims (Timelines.gains_of_store? hstore) (alone_of_homes hsole))
      (h.put he rfl (hramps.gain (homes_self he _) hclaims hstore) hmerges)

theorem addMerge_outcome (hkind : e.kind = .vehicle) (target : Int64) (offset : Option Float) (duration : Float) :
    c.Outcome i e cue (.merge target offset duration)
      ((Feeding.addMerge ⟨c.timelines, c.counters, e⟩ cue (Feed.mergeOf target offset duration)).map id (c.put i)) := by
  obtain ⟨fed, hmerges⟩ := h.merges
  obtain ⟨id, count, hclaims, hid, hsole⟩ := hmerges.claims (homes_self he _)
  rw [Feeding.addMerge_eq hclaims hid]
  cases hstore : Timelines.store? c.timelines.merges id cue (Feed.mergeOf target offset duration) with
  | none =>
    have hclashes := Timelines.store?_eq_none_iff.1 hstore
    rw [Option.elim_none, Prod.map_apply, put_self he]
    exact .spared (.merge hkind (hclaims.eq_some_of_clashes hclashes) hclashes _ _ _)
  | some merges =>
    have hramps := h.ramps
    rw [← Stage.Shelved.ite_self_eq (homes_self he _)] at hramps
    exact .gained (.merge hkind _ _ _ hid hclaims (Timelines.gains_of_store? hstore) (alone_of_homes hsole))
      (h.put he rfl hramps (hmerges.gain (homes_self he _) hclaims hstore))

theorem addSpeed_outcome (hkind : e.kind = .vehicle) (target : Float) :
    c.Outcome i e cue (.speed target)
      ((Feeding.addSpeed ⟨c.timelines, c.counters, e⟩ cue ⟨target⟩).map id (c.put i)) := by
  unfold Feeding.addSpeed
  cases hstore : Timelines.store? c.timelines.speeds (toString e.id) cue ⟨target⟩ with
  | none =>
    rw [Prod.map_apply, put_self he]
    exact .spared (.speed hkind (Timelines.store?_eq_none_iff.1 hstore) target)
  | some speeds =>
    rw [Prod.map_apply, put_timelines he]
    exact .gained (.speed hkind target (Timelines.gains_of_store? hstore) (h.alone he hkind)) { h with }

theorem addWalk_outcome (hkind : e.kind = .pedestrian) {target : Float} (hidle : Feed.isIdle cue target = false) :
    c.Outcome i e cue (.speed target)
      ((Feeding.addWalk ⟨c.timelines, c.counters, e⟩ cue ⟨target, (e.pose.map (·.angle)).getD 0.0⟩).map id (c.put i)) := by
  unfold Feeding.addWalk
  cases hstore : Timelines.store? c.timelines.walks (toString e.id) cue ⟨target, (e.pose.map (·.angle)).getD 0.0⟩ with
  | none =>
    rw [Prod.map_apply, put_self he]
    exact .spared (.walk hkind (Timelines.store?_eq_none_iff.1 hstore) target)
  | some walks =>
    rw [Prod.map_apply, put_timelines he]
    exact .gained (.walk hkind target hidle (Timelines.gains_of_store? hstore) (h.alone he hkind)) { h with }

/-- A member that is fed gains a node or is spared, and what feeds keep is kept. -/
theorem outcome (cue : Cue) (feed : Feed) : c.Outcome i e cue feed (c.feed i cue feed) := by
  have hspared (hspared : c.Spared e cue feed) :
      c.Outcome i e cue feed ((false, (⟨c.timelines, c.counters, e⟩ : Feeding)).map id (c.put i)) := by
    rw [Prod.map_apply, put_self he]
    exact .spared hspared
  simp only [Troupe.feed, he]
  cases hkind : e.kind with
  | vehicle =>
    cases feed with
    | ramp rate stopKind stopValue =>
      simp only [Feeding.add, hkind]
      exact h.addRamp_outcome he hkind rate stopKind stopValue
    | merge target offset duration =>
      simp only [Feeding.add, hkind]
      exact h.addMerge_outcome he hkind target offset duration
    | speed target =>
      simp only [Feeding.add, hkind]
      exact h.addSpeed_outcome he hkind target
  | pedestrian =>
    cases feed with
    | ramp rate stopKind stopValue =>
      simp only [Feeding.add, hkind]
      exact hspared (.unmoved (by simp [hkind]) (by simp))
    | merge target offset duration =>
      simp only [Feeding.add, hkind]
      exact hspared (.unmoved (by simp [hkind]) (by simp))
    | speed target =>
      simp only [Feeding.add, hkind]
      split
      next hidle => exact hspared (.idle hkind hidle)
      next hidle => exact h.addWalk_outcome he hkind (by simpa using hidle)
  | ego =>
    simp only [Feeding.add, hkind]
    exact hspared (.unmoved (by simp [hkind]) (by simp [hkind]))
  | obstacle =>
    simp only [Feeding.add, hkind]
    exact hspared (.unmoved (by simp [hkind]) (by simp [hkind]))

end Kept

theorem Reached.kept (h : c.Reached) : c.Kept := by
  induction h with
  | fresh h => exact h.kept
  | @fed c _ i cue feed ih =>
    cases he : c.members[i]? with
    | none =>
      simp only [Troupe.feed, he]
      exact ih
    | some e =>
      have houtcome := ih.outcome he cue feed
      generalize c.feed i cue feed = result at houtcome ⊢
      cases houtcome with
      | spared _ => exact ih
      | gained _ hkept => exact hkept

/-- After any feeds, one more of them is stored where one timeline, which is the member's alone, gains one node and all
else is as it was, but for the id of a timeline that is new. Where it is not stored, all is as it was. The timelines that
are shared stay empty. -/
theorem feed_atomic (h : c.Reached) (he : c.members[i]? = some e) (cue : Cue) (feed : Feed) :
    ((c.feed i cue feed).1 = false → (c.feed i cue feed).2 = c ∧ c.Spared e cue feed) ∧
    ((c.feed i cue feed).1 = true → c.Gained i e cue feed (c.feed i cue feed).2) ∧
    (c.feed i cue feed).2.timelines.ramps.get? sharedTimeline = some (.empty sharedTimeline) ∧
    (c.feed i cue feed).2.timelines.merges.get? sharedTimeline = some (.empty sharedTimeline) := by
  have houtcome := h.kept.outcome he cue feed
  have hkept := (h.fed i cue feed).kept
  obtain ⟨ramps, hramps⟩ := hkept.ramps
  obtain ⟨merges, hmerges⟩ := hkept.merges
  refine ⟨?_, ?_, hramps.shared, hmerges.shared⟩ <;> clear hramps hmerges hkept
  all_goals
    generalize c.feed i cue feed = result at houtcome
    cases houtcome with
    | spared hspared => simp [hspared]
    | gained hgained _ => simp [hgained]

end Troupe

namespace Sample

def truck : Entity :=
  { car with id := 2, name := "Truck" }

def brake : Feed :=
  .ramp (-2.0) .none 0.0

def convoy : Troupe :=
  ⟨.start, {}, [car, truck]⟩

def slowed : Troupe :=
  (convoy.feed 0 cue brake).2

theorem slowed_reached : slowed.Reached := by
  refine .fed (.fresh ⟨rfl, rfl, rfl, fun e he => ?_, by decide⟩) 0 cue brake
  have hmem : e = car ∨ e = truck := by simpa [convoy] using he
  rcases hmem with rfl | rfl <;> rfl

end Sample

theorem slowed_feed_atomic :
    (Sample.slowed.feed 0 Sample.cue Sample.brake).2 = Sample.slowed ∧
      ∃ e, Sample.slowed.members[1]? = some e ∧
        Sample.slowed.Gained 1 e Sample.cue Sample.brake (Sample.slowed.feed 1 Sample.cue Sample.brake).2 ∧
        (Sample.slowed.feed 1 Sample.cue Sample.brake).2.members.map (·.rampTimeline) = [some "2", some "3"] := by
  have hreached := Sample.slowed_reached
  obtain ⟨e, he⟩ : ∃ e, Sample.slowed.members[0]? = some e := ⟨_, rfl⟩
  obtain ⟨e', he'⟩ : ∃ e, Sample.slowed.members[1]? = some e := ⟨_, rfl⟩
  have hspared := (Troupe.feed_atomic hreached he Sample.cue Sample.brake).1 (by decide +kernel)
  have hgained := (Troupe.feed_atomic hreached he' Sample.cue Sample.brake).2.1 (by decide)
  exact ⟨hspared.1, e', he', hgained, by decide⟩

end Scenography
