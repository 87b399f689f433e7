import Scenography.Feed
import Scenography.Proofs.KeyMap
import Scenography.Proofs.Numbering

namespace Scenography

variable {π : Type}

def Cue.node (cue : Cue) (payload : π) : Node π := { cue, payload }

namespace Timeline

def addAll (t : Timeline π) (nodes : List (Node π)) : Timeline π :=
  nodes.foldl (fun t n => (t.add? n).getD t) t

theorem addAll_append (t : Timeline π) (front back : List (Node π)) :
    t.addAll (front ++ back) = (t.addAll front).addAll back :=
  List.foldl_append

theorem addAll_singleton (t : Timeline π) (n : Node π) : t.addAll [n] = (t.add? n).getD t := rfl

theorem add?_empty (id : String) (n : Node π) : (empty id).add? n = some ⟨id, place n []⟩ := rfl

theorem seek_le (before : Nat → Bool) (base size : Nat) : seek before base size ≤ base + max 1 size := by
  fun_induction seek before base size with
  | case1 base size hs ih =>
    apply Nat.le_trans ih
    split <;> omega
  | case2 base size hs hm => omega
  | case3 base size hs hm => omega

theorem place_splits (n : Node π) (nodes : List (Node π)) :
    ∃ front back, nodes = front ++ back ∧ place n nodes = front ++ n :: back := by
  unfold place
  generalize hk : seek (fun i => nodes[i]?.any (·.cue.notAfter n.cue)) 0 nodes.length = k
  have hle : k ≤ nodes.length := by
    cases nodes with
    | nil => simp [← hk, seek]
    | cons first rest =>
      have h := seek_le (fun i => (first :: rest)[i]?.any (·.cue.notAfter n.cue)) 0 (first :: rest).length
      rw [hk] at h
      simp only [List.length_cons] at h ⊢
      omega
  refine ⟨nodes.take k, nodes.drop k, (List.take_append_drop k nodes).symm, ?_⟩
  have hlength : (nodes.take k).length = k := List.length_take_of_le hle
  have hinsert := insertIdx_length n (nodes.take k) (nodes.drop k)
  rwa [List.take_append_drop, hlength] at hinsert

theorem mem_place {n m : Node π} {nodes : List (Node π)} : m ∈ place n nodes ↔ m = n ∨ m ∈ nodes := by
  obtain ⟨front, back, rfl, hplace⟩ := place_splits n nodes
  rw [hplace]
  simp only [List.mem_append, List.mem_cons]
  tauto

theorem mem_of_add? {t t' : Timeline π} {n : Node π} (h : t.add? n = some t') (m : Node π) :
    m ∈ t'.nodes ↔ m = n ∨ m ∈ t.nodes := by
  unfold add? at h
  split at h
  · cases h
  · cases h
    exact mem_place

end Timeline

namespace Timelines

open Timeline Counters

theorem get?_store (m : KeyMap String (Timeline π)) (id : String) (cue : Cue) (payload : π) :
    ((store? m id cue payload).getD m).get? id =
      some (((m.get? id).getD (.empty id)).addAll [cue.node payload]) := by
  unfold store?
  rw [addAll_singleton, Cue.node]
  cases hadd : ((m.get? id).getD (.empty id)).add? { cue, payload } with
  | some t => simp
  | none =>
    cases hid : m.get? id with
    | some t => simp [hid]
    | none =>
      rw [hid, Option.getD_none, add?_empty] at hadd
      cases hadd

theorem get?_store_of_ne {id id' : String} (h : id' ≠ id) (m : KeyMap String (Timeline π)) (cue : Cue)
    (payload : π) : ((store? m id cue payload).getD m).get? id' = m.get? id' := by
  unfold store?
  cases ((m.get? id).getD (.empty id)).add? { cue, payload } with
  | some t => simp [KeyMap.get?_insert_of_ne h]
  | none => rfl

/-- Each vehicle's timeline has what the vehicle was fed. A vehicle without a timeline of its own,
for which `home` has no id, was fed nothing and shares the empty one. -/
structure Held (home : Nat → Option (Option String)) (count : Nat) (m : KeyMap String (Timeline π))
    (fed : Nat → List (Node π)) : Prop where
  shared : m.get? sharedTimeline = some (.empty sharedTimeline)
  idle : ∀ i, home i = some none → fed i = []
  holds : ∀ i id, home i = some (some id) → m.get? id = some ((Timeline.empty id).addAll (fed i))
  own : ∀ i id, home i = some (some id) → ∃ n < count, id = toString (n + 2)
  apart : ∀ i j id, home i = some (some id) → home j = some (some id) → i = j
  unused : ∀ n, count ≤ n → m.get? (toString (n + 2)) = none

def feedOne (fed : Nat → List (Node π)) (i : Nat) (nodes : List (Node π)) (j : Nat) : List (Node π) :=
  if j = i then fed j ++ nodes else fed j

namespace Held

variable {home : Nat → Option (Option String)} {count : Nat} {m : KeyMap String (Timeline π)}
  {fed : Nat → List (Node π)} {i : Nat}

theorem start (h : ∀ i id, home i = some id → id = none)
    (hm : m.get? sharedTimeline = some (.empty sharedTimeline))
    (hn : ∀ id, id ≠ sharedTimeline → m.get? id = none) : Held home 0 m fun _ => [] where
  shared := hm
  idle := fun _ _ => rfl
  holds := by
    intro i id hi
    cases h i _ hi
  own := by
    intro i id hi
    cases h i _ hi
  apart := by
    intro i j id hi
    cases h i _ hi
  unused := fun n _ => hn _ (toString_ne_sharedTimeline n)

theorem get?_home (h : Held home count m fed) {id : Option String} (hi : home i = some id) :
    m.get? (id.getD sharedTimeline) = some ((Timeline.empty (id.getD sharedTimeline)).addAll (fed i)) := by
  cases id with
  | some id => exact h.holds i id hi
  | none =>
    rw [h.idle i hi]
    exact h.shared

theorem own?_home (h : Held home count m fed) {id : Option String} (hi : home i = some id) : own? id = id := by
  cases id with
  | none => rfl
  | some id =>
    obtain ⟨n, -, rfl⟩ := h.own i id hi
    have hne := toString_ne_sharedTimeline n
    simpa [own?] using hne

theorem store (h : Held home count m fed) {id : String} (hi : home i = some (some id)) (cue : Cue) (payload : π) :
    Held home count ((store? m id cue payload).getD m) (feedOne fed i [cue.node payload]) := by
  obtain ⟨n, hn, rfl⟩ := h.own i id hi
  constructor
  case shared =>
    rw [get?_store_of_ne (toString_ne_sharedTimeline n).symm]
    exact h.shared
  case idle =>
    intro j hj
    have hji : j ≠ i := by
      rintro rfl
      cases hi.symm.trans hj
    rw [feedOne, if_neg hji]
    exact h.idle j hj
  case holds =>
    intro j id hj
    by_cases hji : j = i
    · subst hji
      cases hi.symm.trans hj
      rw [get?_store, h.holds j _ hj, feedOne, if_pos rfl, addAll_append, Option.getD_some]
    · have hne : id ≠ toString (n + 2) := by
        rintro rfl
        exact hji (h.apart j i _ hj hi)
      rw [get?_store_of_ne hne, feedOne, if_neg hji]
      exact h.holds j id hj
  case own => exact h.own
  case apart => exact h.apart
  case unused =>
    intro k hk
    have hne : toString (k + 2) ≠ toString (n + 2) := fun hkn => by
      have := toString_injective hkn
      omega
    rw [get?_store_of_ne hne]
    exact h.unused k hk

theorem claim (h : Held home count m fed) (hi : home i = some none) (cue : Cue) (payload : π) :
    Held (fun j => if j = i then some (some (toString (count + 2))) else home j) (count + 1)
      ((store? m (toString (count + 2)) cue payload).getD m) (feedOne fed i [cue.node payload]) := by
  -- The ids in use come before the next one, so the timeline claimed is a fresh one.
  have hnew : ∀ j id, home j = some (some id) → id ≠ toString (count + 2) := by
    intro j id hj hid
    obtain ⟨n, hn, rfl⟩ := h.own j id hj
    have := toString_injective hid
    omega
  constructor
  case shared =>
    rw [get?_store_of_ne (toString_ne_sharedTimeline count).symm]
    exact h.shared
  case idle =>
    intro j hj
    have hji : j ≠ i := by
      rintro rfl
      simp at hj
    rw [if_neg hji] at hj
    rw [feedOne, if_neg hji]
    exact h.idle j hj
  case holds =>
    intro j id hj
    by_cases hji : j = i
    · subst hji
      rw [if_pos rfl] at hj
      cases hj
      rw [get?_store, h.unused count (Nat.le_refl _), feedOne, if_pos rfl, h.idle j hi]
      rfl
    · rw [if_neg hji] at hj
      rw [get?_store_of_ne (hnew j id hj), feedOne, if_neg hji]
      exact h.holds j id hj
  case own =>
    intro j id hj
    by_cases hji : j = i
    · rw [if_pos hji] at hj
      cases hj
      exact ⟨count, Nat.lt_succ_self _, rfl⟩
    · rw [if_neg hji] at hj
      obtain ⟨n, hn, hid⟩ := h.own j id hj
      exact ⟨n, Nat.lt_succ_of_lt hn, hid⟩
  case apart =>
    intro j k id hj hk
    by_cases hji : j = i <;> by_cases hki : k = i
    · rw [hji, hki]
    · rw [if_pos hji] at hj
      rw [if_neg hki] at hk
      cases hj
      exact (hnew k _ hk rfl).elim
    · rw [if_neg hji] at hj
      rw [if_pos hki] at hk
      cases hk
      exact (hnew j _ hj rfl).elim
    · rw [if_neg hji] at hj
      rw [if_neg hki] at hk
      exact h.apart j k id hj hk
  case unused =>
    intro n hn
    have hne : toString (n + 2) ≠ toString (count + 2) := fun heq => by
      have := toString_injective heq
      omega
    rw [get?_store_of_ne hne]
    exact h.unused n (Nat.le_of_succ_le hn)

end Held

end Timelines

namespace Feeding

open Timelines (own? store?)

theorem addRamp_of_own {f : Feeding} {id : String} (h : own? f.entity.rampTimeline = some id)
    (cue : Cue) (r : Ramp) :
    (f.addRamp cue r).2 =
      { f with timelines.ramps := (store? f.timelines.ramps id cue r).getD f.timelines.ramps } := by
  unfold addRamp claimRamps
  rw [h]
  dsimp only
  cases store? f.timelines.ramps id cue r <;> rfl

theorem addRamp_of_none {f : Feeding} (h : own? f.entity.rampTimeline = none) (cue : Cue) (r : Ramp) :
    (f.addRamp cue r).2 =
      { timelines.ramps := (store? f.timelines.ramps (toString (f.counters.ramps + 2)) cue r).getD f.timelines.ramps
        timelines.merges := f.timelines.merges
        timelines.speeds := f.timelines.speeds
        timelines.walks := f.timelines.walks
        counters := { f.counters with ramps := f.counters.ramps + 1 }
        entity := { f.entity with rampTimeline := some (toString (f.counters.ramps + 2)) } } := by
  unfold addRamp claimRamps Counters.nextRamp
  rw [h]
  dsimp only
  cases store? f.timelines.ramps (toString (f.counters.ramps + 2)) cue r <;> rfl

theorem addSpeed_eq (f : Feeding) (cue : Cue) (v : Speed) :
    (f.addSpeed cue v).2 =
      { f with
        timelines.speeds := (store? f.timelines.speeds (toString f.entity.id) cue v).getD f.timelines.speeds } := by
  unfold addSpeed
  cases store? f.timelines.speeds (toString f.entity.id) cue v <;> rfl

theorem addMerge_of_own {f : Feeding} {id : String} (h : own? f.entity.mergeTimeline = some id)
    (cue : Cue) (m : Merge) :
    (f.addMerge cue m).2 =
      { f with timelines.merges := (store? f.timelines.merges id cue m).getD f.timelines.merges } := by
  unfold addMerge claimMerges
  rw [h]
  dsimp only
  cases store? f.timelines.merges id cue m <;> rfl

theorem addMerge_of_none {f : Feeding} (h : own? f.entity.mergeTimeline = none) (cue : Cue) (m : Merge) :
    (f.addMerge cue m).2 =
      { timelines.ramps := f.timelines.ramps
        timelines.merges :=
          (store? f.timelines.merges (toString (f.counters.merges + 2)) cue m).getD f.timelines.merges
        timelines.speeds := f.timelines.speeds
        timelines.walks := f.timelines.walks
        counters := { f.counters with merges := f.counters.merges + 1 }
        entity := { f.entity with mergeTimeline := some (toString (f.counters.merges + 2)) } } := by
  unfold addMerge claimMerges Counters.nextMerge
  rw [h]
  dsimp only
  cases store? f.timelines.merges (toString (f.counters.merges + 2)) cue m <;> rfl

theorem addRamp_frame (f : Feeding) (cue : Cue) (r : Ramp) :
    (f.addRamp cue r).2.timelines.speeds = f.timelines.speeds ∧
      (f.addRamp cue r).2.timelines.walks = f.timelines.walks := by
  cases h : own? f.entity.rampTimeline with
  | some id => rw [addRamp_of_own h]; exact ⟨rfl, rfl⟩
  | none => rw [addRamp_of_none h]; exact ⟨rfl, rfl⟩

theorem addMerge_frame (f : Feeding) (cue : Cue) (m : Merge) :
    (f.addMerge cue m).2.timelines.ramps = f.timelines.ramps ∧
      (f.addMerge cue m).2.timelines.speeds = f.timelines.speeds ∧
      (f.addMerge cue m).2.timelines.walks = f.timelines.walks ∧
      (f.addMerge cue m).2.counters.ramps = f.counters.ramps ∧
      (f.addMerge cue m).2.entity.rampTimeline = f.entity.rampTimeline := by
  cases h : own? f.entity.mergeTimeline with
  | some id => rw [addMerge_of_own h]; exact ⟨rfl, rfl, rfl, rfl, rfl⟩
  | none => rw [addMerge_of_none h]; exact ⟨rfl, rfl, rfl, rfl, rfl⟩

theorem addWalk_eq (f : Feeding) (cue : Cue) (w : Walk) :
    (f.addWalk cue w).2 =
      { f with
        timelines.walks := (store? f.timelines.walks (toString f.entity.id) cue w).getD f.timelines.walks } := by
  unfold addWalk
  cases store? f.timelines.walks (toString f.entity.id) cue w <;> rfl

end Feeding

end Scenography
