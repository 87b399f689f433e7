import Scenography.Proofs.Finite.Readers
import Scenography.Proofs.LaneChange
import Scenography.Proofs.ProfileTexts
import Scenography.Proofs.Steps
import Scenography.Proofs.TimelineArrangement
/-!
The two profiles of a timeline tell all about its nodes: what each leaves out comes from the order of the
nodes and from what is measured in which mode.
-/

namespace Scenography

open Timeline

section Merging

variable {α β γ : Type} {P : α → Prop} {R : α → α → Prop} {f : α → Option β} {g : α → Option γ}

def Tells [BEq α] (P : α → Prop) (f : α → Option β) : Prop :=
  ∀ a b t, P a → P b → f a = some t → f b = some t → (a == b) = true

def Parted (f : α → Option β) (g : α → Option γ) : Prop :=
  ∀ a, (f a).isSome = !(g a).isSome

namespace Parted

theorem symm (h : Parted f g) : Parted g f := by
  intro a
  rw [h a, Bool.not_not]

theorem eq_none (h : Parted f g) {a : α} {t : β} (ha : f a = some t) : g a = none := by
  have hg := h a
  rw [ha] at hg
  simpa using hg

theorem exists_of_none (h : Parted f g) {a : α} (ha : f a = none) : ∃ w, g a = some w := by
  have hg := h a
  rw [ha] at hg
  simpa [Option.isSome_iff_exists] using hg

theorem eq_nil (h : Parted f g) {l : List α} (hf : l.filterMap f = []) (hg : l.filterMap g = []) : l = [] := by
  cases l with
  | nil => rfl
  | cons a l =>
    cases ha : f a with
    | some t => simp [ha] at hf
    | none =>
      obtain ⟨w, hw⟩ := h.exists_of_none ha
      simp [hw] at hg

end Parted

variable [BEq α]

def Steady (P : α → Prop) (R : α → α → Prop) : Prop :=
  ∀ a b c d, P a → P b → P c → P d → (a == c) = true → (b == d) = true → R a b → ¬R d c

theorem first_of_filterMap_eq (hpart : Parted f g) (hf : Tells P f) (hg : Tells P g) (hR : Steady P R)
    {a b : α} {l l' : List α} {t : β} (hl : (a :: l).Pairwise R) (hl' : (b :: l').Pairwise R)
    (hP : ∀ c ∈ a :: l, P c) (hP' : ∀ c ∈ b :: l', P c) (hfl : (a :: l).filterMap f = (b :: l').filterMap f)
    (hgl : (a :: l).filterMap g = (b :: l').filterMap g) (ha : f a = some t) :
    (a == b) = true ∧ l.filterMap f = l'.filterMap f ∧ l.filterMap g = l'.filterMap g := by
  have hPa := hP a List.mem_cons_self
  have hPb := hP' b List.mem_cons_self
  rw [List.filterMap_cons_some ha] at hfl
  rw [List.filterMap_cons_none (hpart.eq_none ha)] at hgl
  cases hb : f b with
  | some t' =>
    rw [List.filterMap_cons_some hb] at hfl
    rw [List.filterMap_cons_none (hpart.eq_none hb)] at hgl
    obtain ⟨rfl, htails⟩ := List.cons.inj hfl
    exact ⟨hf a b t hPa hPb ha hb, htails, hgl⟩
  | none =>
    obtain ⟨w, hw⟩ := hpart.exists_of_none hb
    rw [List.filterMap_cons_none hb] at hfl
    rw [List.filterMap_cons_some hw] at hgl
    -- What the one list begins with comes later in the other, and the other way round.
    obtain ⟨d, hd, hwd⟩ := List.mem_filterMap.1 (hgl ▸ List.mem_cons_self : w ∈ l.filterMap g)
    obtain ⟨c, hc, htc⟩ := List.mem_filterMap.1 (hfl ▸ List.mem_cons_self : t ∈ l'.filterMap f)
    have hPc := hP' c (List.mem_cons_of_mem _ hc)
    have hPd := hP d (List.mem_cons_of_mem _ hd)
    have hac := hf a c t hPa hPc ha htc
    have hdb := hg d b w hPd hPb hwd hw
    have had : R a d := (List.pairwise_cons.1 hl).1 d hd
    have hbc : R b c := (List.pairwise_cons.1 hl').1 c hc
    exact (hR a d c b hPa hPd hPc hPb hac hdb had hbc).elim

theorem beq_of_filterMap_eq (hpart : Parted f g) (hf : Tells P f) (hg : Tells P g) (hR : Steady P R)
    {l l' : List α} (hl : l.Pairwise R) (hl' : l'.Pairwise R) (hP : ∀ a ∈ l, P a) (hP' : ∀ a ∈ l', P a)
    (hfl : l.filterMap f = l'.filterMap f) (hgl : l.filterMap g = l'.filterMap g) : (l == l') = true := by
  induction l generalizing l' with
  | nil =>
    rw [hpart.eq_nil hfl.symm hgl.symm]
    rfl
  | cons a l ih =>
    cases l' with
    | nil => cases hpart.eq_nil hfl hgl
    | cons b l' =>
      have hrest (hfirst : (a == b) = true ∧ l.filterMap f = l'.filterMap f ∧ l.filterMap g = l'.filterMap g) :
          (a :: l == b :: l') = true := by
        obtain ⟨hab, hfl, hgl⟩ := hfirst
        rw [List.cons_beq_cons, hab, Bool.true_and]
        exact ih hl.of_cons hl'.of_cons (fun c hc => hP c (List.mem_cons_of_mem _ hc))
          (fun c hc => hP' c (List.mem_cons_of_mem _ hc)) hfl hgl
      cases ha : f a with
      | some t => exact hrest (first_of_filterMap_eq hpart hf hg hR hl hl' hP hP' hfl hgl ha)
      | none =>
        obtain ⟨w, hw⟩ := hpart.exists_of_none ha
        obtain ⟨hab, hgl, hfl⟩ := first_of_filterMap_eq hpart.symm hg hf hR hl hl' hP hP' hgl hfl hw
        exact hrest ⟨hab, hfl, hgl⟩

end Merging

section Booking

def Test.Moded : Test → Prop
  | .timeToCollision _ _ _ _ mode => mode ≠ .none
  | .distance _ _ _ _ mode => mode ≠ .none
  | _ => True

def Condition.Classified (c : Condition) : Prop :=
  ∃ sources map s actor e, (Staging.exec sources map (Staging.condition actor e).run s).1 = .ok c

namespace Staging

open Markup (Element)

variable (actor name source : String) (e : Element)

theorem IfOk.error {α : Type} {Q : α → Prop} (f : Fault) : IfOk Q (.error f) :=
  nofun

theorem IfOk.ok {α : Type} {Q : α → Prop} {a : α} (h : Q a) : IfOk Q (.ok a) :=
  fun _ ha => Except.ok.inj ha ▸ h

theorem distanceMode_gives (straight : String) : Gives (· ≠ .none) (distanceMode e name straight) := by
  refine .bind fun raw => .pure ?_
  split <;> simp

theorem timeToCollisionTest_gives : Gives (IfOk Test.Moded) (timeToCollisionTest name source e).run := by
  unfold timeToCollisionTest
  refine .run_bind .error fun target => ?_
  cases target with
  | none => exact .run_throw (.error _)
  | some target =>
    have hmode : Gives (IfOk (· ≠ .none)) (liftM (distanceMode e "alongRoute" "false") : Attempt DistanceMode).run :=
      .map fun sources map s => .ok (distanceMode_gives _ _ _ sources map s)
    refine .run_bind_of .error hmode fun mode hmode => ?_
    refine .run_bind .error fun _ => .run_bind .error fun _ => .run_bind .error fun _ => .run_bind .error fun _ => ?_
    exact .run_pure (.ok hmode)

theorem relativeDistanceTest_gives : Gives Test.Moded (relativeDistanceTest source e) := by
  unfold relativeDistanceTest
  refine .bind fun target => .bind_of (distanceMode_gives _ _ _) fun mode hmode => ?_
  exact .bind fun _ => .bind fun _ => .bind fun _ => .bind fun _ => .pure hmode

theorem laneAttachTest_gives : Gives (IfOk Test.Moded) (laneAttachTest name e).run := by
  unfold laneAttachTest
  refine .run_bind .error fun _ => ?_
  split
  · exact .run_bind .error fun _ => .run_bind .error fun _ => .run_pure (.ok trivial)
  · exact .run_throw (.error _)

theorem distanceTest_gives : Gives (IfOk Test.Moded) (distanceTest name source e).run := by
  unfold distanceTest
  refine .run_bind .error fun distance => ?_
  split
  all_goals
    refine .run_bind .error fun spot => ?_
    cases spot with
    | none => exact .run_throw (.error _)
    | some spot =>
      refine .run_bind .error fun point => .run_bind .error fun _ => .run_bind .error fun _ => .run_pure (.ok trivial)

theorem reachTest_gives : Gives (IfOk Test.Moded) (reachTest name source e).run := by
  unfold reachTest
  refine .run_bind .error fun tolerance => .run_bind .error fun goal => ?_
  cases goal with
  | none => exact .run_throw (.error _)
  | some goal => exact .run_bind .error fun _ => .run_pure (.ok trivial)

theorem run_lift_ifOk {α : Type} {Q : α → Prop} {m : Staging α} (h : Gives Q m) :
    Gives (IfOk Q) (liftM m : Attempt α).run :=
  .run_lift fun sources map s => .ok (h sources map s)

theorem test_gives (source? : Option String) (b : Branch) : Gives (IfOk Test.Moded) (test actor name source? e b).run := by
  cases b with
  | time => exact run_lift_ifOk (.bind fun _ => .bind fun _ => .pure trivial)
  | parameter => exact laneAttachTest_gives _ _
  | elementState => exact run_lift_ifOk (.bind fun _ => .bind fun _ => .bind fun _ => .pure trivial)
  | timeToCollision => exact timeToCollisionTest_gives _ _ _
  | relativeDistance => exact run_lift_ifOk (relativeDistanceTest_gives _ _)
  | distance => exact distanceTest_gives _ _ _
  | reach => exact reachTest_gives _ _ _
  | speed => exact run_lift_ifOk (.bind fun _ => .bind fun _ => .pure trivial)
  | relativeSpeed => exact run_lift_ifOk (.bind fun _ => .bind fun _ => .pure trivial)
  | headway => exact run_lift_ifOk (.bind fun _ => .bind fun _ => .bind fun _ => .bind fun _ => .bind fun _ => .pure trivial)

theorem condition_gives : Gives (IfOk fun c : Condition => c.test.Moded) (condition actor e).run := by
  unfold condition
  refine .run_bind .error fun name => ?_
  split
  · exact .run_throw (.error _)
  · refine .run_bind .error fun _ => .run_bind_of .error (test_gives _ _ _ _ _) fun test htest => ?_
    exact .run_bind .error fun _ => .run_bind .error fun _ => .run_pure (.ok htest)

end Staging

theorem Condition.Classified.moded {c : Condition} (h : c.Classified) : c.test.Moded := by
  obtain ⟨sources, map, s, actor, e, hc⟩ := h
  exact Staging.condition_gives actor e sources map s c hc

theorem Cue.regular_of_conditions {conditions : List Condition} (h : ∀ c ∈ conditions, c.Classified) {cue : Cue}
    (hcue : ofConditions? conditions = some cue) : cue.Regular := by
  refine ⟨isFinite_of_ofConditions? hcue, ?_⟩
  obtain ⟨c, hc, htest⟩ := List.exists_of_findSome?_eq_some hcue
  have hmoded : c.test.Moded := (h c (List.mem_reverse.1 hc)).moded
  cases ht : c.test <;> simp only [ht, Test.Moded, ofTest?, reduceCtorEq, Option.some.injEq] at htest hmoded <;>
    rw [← htest] <;> simp [hmoded]

/-- Timelines that feeds with cues of documents' conditions lead to. -/
inductive Booked : Timelines → Prop
  | start : Booked .start
  | fed {timelines : Timelines} (h : Booked timelines) (counters : Counters) (entity : Entity)
      {conditions : List Condition} (hread : ∀ c ∈ conditions, c.Classified) {cue : Cue}
      (hcue : Cue.ofConditions? conditions = some cue) (feed : Feed) :
      Booked (Feeding.add ⟨timelines, counters, entity⟩ cue feed).2.timelines

section Stored

variable {π : Type}

def Timelines.Regular (m : KeyMap String (Timeline π)) : Prop :=
  ∀ id t, m.get? id = some t → t.Ordered ∧ ∀ n ∈ t.nodes, n.Regular

namespace Timelines.Regular

variable {m : KeyMap String (Timeline π)}

theorem store (h : Regular m) (id : String) {cue : Cue} (hcue : cue.Regular) (payload : π) :
    Regular ((store? m id cue payload).getD m) := by
  unfold store?
  cases hadd : ((m.get? id).getD (.empty id)).add? { cue, payload } with
  | none => exact h
  | some t' =>
    have hold : ((m.get? id).getD (.empty id)).Ordered ∧ ∀ n ∈ ((m.get? id).getD (.empty id)).nodes, n.Regular := by
      cases ht : m.get? id with
      | none => exact ⟨.empty id, by simp [Timeline.empty]⟩
      | some t => exact h id t ht
    rw [Option.map_some, Option.getD_some]
    intro id' t ht
    rw [KeyMap.get?_insert] at ht
    split at ht
    · obtain rfl := Option.some.inj ht
      refine ⟨hold.1.add? (n := ⟨cue, 1, payload⟩) hcue.finite hadd, fun n hn => ?_⟩
      rcases (mem_of_add? hadd n).1 hn with rfl | hn
      · exact ⟨hcue, rfl⟩
      · exact hold.2 n hn
    · exact h id' t ht

end Timelines.Regular

end Stored

structure Timelines.AllRegular (t : Timelines) : Prop where
  ramps : Regular t.ramps
  merges : Regular t.merges
  speeds : Regular t.speeds
  walks : Regular t.walks

theorem Timelines.start_allRegular : Timelines.start.AllRegular := by
  have hshared {π : Type} : Regular ((∅ : KeyMap String (Timeline π)).insert Counters.sharedTimeline
      (.empty Counters.sharedTimeline)) := by
    intro id t ht
    rw [KeyMap.get?_insert] at ht
    split at ht
    · obtain rfl := Option.some.inj ht
      exact ⟨.empty _, by simp [Timeline.empty]⟩
    · cases ht
  have hnone {π : Type} : Regular (∅ : KeyMap String (Timeline π)) := by
    intro id t ht
    rw [KeyMap.get?_empty] at ht
    cases ht
  exact ⟨hshared, hshared, hnone, hnone⟩

theorem Feeding.add_allRegular {f : Feeding} (h : f.timelines.AllRegular) {cue : Cue} (hcue : cue.Regular) (feed : Feed) :
    (f.add cue feed).2.timelines.AllRegular := by
  have hramp (r : Ramp) : (f.addRamp cue r).2.timelines.AllRegular := by
    cases hown : Timelines.own? f.entity.rampTimeline with
    | some id => rw [addRamp_of_own hown]; exact { h with ramps := h.ramps.store id hcue r }
    | none => rw [addRamp_of_none hown]; exact { h with ramps := h.ramps.store _ hcue r }
  have hmerge (m : Merge) : (f.addMerge cue m).2.timelines.AllRegular := by
    cases hown : Timelines.own? f.entity.mergeTimeline with
    | some id => rw [addMerge_of_own hown]; exact { h with merges := h.merges.store id hcue m }
    | none => rw [addMerge_of_none hown]; exact { h with merges := h.merges.store _ hcue m }
  have hspeed (v : Speed) : (f.addSpeed cue v).2.timelines.AllRegular := by
    rw [addSpeed_eq]
    exact { h with speeds := h.speeds.store _ hcue v }
  have hwalk (w : Walk) : (f.addWalk cue w).2.timelines.AllRegular := by
    rw [addWalk_eq]
    exact { h with walks := h.walks.store _ hcue w }
  unfold add
  split
  · exact hramp _
  · exact hmerge _
  · exact hspeed _
  · split
    · exact h
    · exact hwalk _
  · exact h

theorem Booked.allRegular {t : Timelines} (h : Booked t) : t.AllRegular := by
  induction h with
  | start => exact Timelines.start_allRegular
  | fed _ counters entity hread hcue feed ih =>
    exact Feeding.add_allRegular ih (Cue.regular_of_conditions hread hcue) feed

end Booking

section Profiles

variable {π : Type} [Measured π] [BEq π]

theorem steady_before : Steady (fun n : Node π => n.Regular ∧ Numeric n.payload) fun m n => m.cue.Before n.cue := by
  rintro m n m' n' ⟨hm, -⟩ ⟨hn, -⟩ ⟨hm', -⟩ ⟨hn', -⟩ hmm hnn hmn hnm
  obtain ⟨hv, hk, -⟩ := Node.beq_iff.1 hmm
  obtain ⟨hw, hl, -⟩ := Node.beq_iff.1 hnn
  rw [Number.beq_iff_rank hm.cue.finite hm'.cue.finite] at hv
  rw [Number.beq_iff_rank hn.cue.finite hn'.cue.finite] at hw
  refine hmn.asymm hm.cue.finite hn.cue.finite ?_
  rw [Cue.Before, Number.lt_iff_rank hn'.cue.finite hm'.cue.finite,
    Number.beq_iff_rank hn'.cue.finite hm'.cue.finite, ← hv, ← hw, ← hk, ← hl] at hnm
  rw [Cue.Before, Number.lt_iff_rank hn.cue.finite hm.cue.finite, Number.beq_iff_rank hn.cue.finite hm.cue.finite]
  exact hnm

variable [Payload π] [Payload.Lawful π]

theorem Timeline.beq_of_profiles {t u : Timeline π} (ht : t.Ordered ∧ ∀ n ∈ t.nodes, n.Regular)
    (hu : u.Ordered ∧ ∀ n ∈ u.nodes, n.Regular) (hp : ∀ n ∈ t.nodes, Numeric n.payload)
    (hq : ∀ n ∈ u.nodes, Numeric n.payload) (htime : t.timeProfile = u.timeProfile)
    (hevent : t.eventProfile = u.eventProfile) : (t.nodes == u.nodes) = true := by
  have htimes : t.nodes.filterMap timeText? = u.nodes.filterMap timeText? :=
    Text.intercalate_injective mem_timeTexts mem_timeTexts htime
  have hevents : t.nodes.filterMap eventText? = u.nodes.filterMap eventText? :=
    Text.intercalate_injective mem_eventTexts mem_eventTexts hevent
  exact beq_of_filterMap_eq isSome_timeText?
    (fun m n s hm hn => hm.1.beq_of_timeText? hn.1 hm.2 hn.2)
    (fun m n s hm hn => hm.1.beq_of_eventText? hn.1 hm.2 hn.2) steady_before ht.1.ascending hu.1.ascending
    (fun n hn => ⟨ht.2 n hn, hp n hn⟩) (fun n hn => ⟨hu.2 n hn, hq n hn⟩) htimes hevents

def Timelines.Told (m m' : KeyMap String (Timeline π)) : Prop :=
  ∀ id id' t u, m.get? id = some t → m'.get? id' = some u → (∀ n ∈ t.nodes, Numeric n.payload) →
    (∀ n ∈ u.nodes, Numeric n.payload) → t.timeProfile = u.timeProfile → t.eventProfile = u.eventProfile →
      (t.nodes == u.nodes) = true

theorem Timelines.Regular.told {m m' : KeyMap String (Timeline π)} (h : Regular m) (h' : Regular m') : Told m m' :=
  fun id id' t u ht hu hp hq htime hevent => t.beq_of_profiles (h id t ht) (h' id' u hu) hp hq htime hevent

end Profiles

open Timelines (Told)

/-- Nothing of what is fed is lost in the profiles, which are texts. -/
theorem profiles_tell {s t : Timelines} (hs : Booked s) (ht : Booked t) :
    Told s.ramps t.ramps ∧ Told s.merges t.merges ∧ Told s.speeds t.speeds ∧ Told s.walks t.walks :=
  ⟨hs.allRegular.ramps.told ht.allRegular.ramps, hs.allRegular.merges.told ht.allRegular.merges,
    hs.allRegular.speeds.told ht.allRegular.speeds, hs.allRegular.walks.told ht.allRegular.walks⟩

namespace Sample

def gapTest (value : String) : Markup.Element :=
  .of "Condition" [] [.of "ByEntityCondition" [] [.of "EntityCondition" [] [
    .of "RelativeDistanceCondition" [("entityRef", "Ego"), ("rule", "lessThan"), ("value", value)] []]]]

def classified (e : Markup.Element) : List Condition :=
  (Staging.exec .bare .blank (Staging.condition "Car" e).run {}).1.toOption.toList

theorem classified_of_mem {e : Markup.Element} {c : Condition} (h : c ∈ classified e) : c.Classified := by
  refine ⟨.bare, .blank, {}, "Car", e, ?_⟩
  cases hc : (Staging.exec .bare .blank (Staging.condition "Car" e).run {}).1 with
  | error f => simp [classified, hc, Except.toOption] at h
  | ok c' => simp [classified, hc, Except.toOption] at h; rw [h]

def cueOf (e : Markup.Element) : Cue :=
  (Cue.ofConditions? (classified e)).getD cue

def fed (speed : Float) : Timelines :=
  (Feeding.add ⟨(Feeding.add feeding (cueOf (timeTest "1")) (.speed speed)).2.timelines, {}, car⟩
    (cueOf (gapTest "-0")) (.speed 3.5)).2.timelines

theorem fed_booked (speed : Float) : Booked (fed speed) := by
  have hcue {e : Markup.Element} (h : (Cue.ofConditions? (classified e)).isSome = true) :
      Cue.ofConditions? (classified e) = some (cueOf e) := by
    obtain ⟨c, hc⟩ := Option.isSome_iff_exists.1 h
    rw [cueOf, hc, Option.getD_some]
  exact .fed (.fed .start {} car (fun _ => classified_of_mem) (hcue (by decide)) _) {} car
    (fun _ => classified_of_mem) (hcue (by decide)) _

end Sample

theorem sample_profiles_tell : ∃ t u, (Sample.fed 0.0).speeds.get? "1" = some t ∧
    (Sample.fed (-0.0)).speeds.get? "1" = some u ∧ t.timeProfile = "1,0" ∧
    t.eventProfile = "egoDistance laneprojection 0,3.5 1" ∧ (t.nodes == u.nodes) = true := by
  have htrack (speed : Float) (hnumber : ∀ x ∈ [speed, 3.5], x.isNaN = false)
      (h : ((Sample.fed speed).speeds.get? "1").map (fun t =>
        (t.timeProfile, t.eventProfile, t.nodes.map fun n => n.payload.speed)) =
          some ("1,0", "egoDistance laneprojection 0,3.5 1", [3.5, speed])) :
      ∃ t, (Sample.fed speed).speeds.get? "1" = some t ∧ t.timeProfile = "1,0" ∧
        t.eventProfile = "egoDistance laneprojection 0,3.5 1" ∧ ∀ n ∈ t.nodes, Numeric n.payload := by
    obtain ⟨t, ht, heq⟩ := Option.map_eq_some_iff.1 h
    obtain ⟨htime, hevent, hspeeds⟩ := by simpa only [Prod.mk.injEq] using heq
    refine ⟨t, ht, htime, hevent, fun n hn x hx => hnumber x ?_⟩
    have hspeed : x = n.payload.speed := Quantity.double.inj (List.mem_singleton.1 hx)
    have hmem : n.payload.speed ∈ [3.5, speed] := hspeeds ▸ List.mem_map_of_mem hn
    rw [hspeed]
    simpa [or_comm] using hmem
  obtain ⟨t, ht, htime, hevent, hnumbers⟩ := htrack 0.0 (by decide) (by decide +kernel)
  obtain ⟨u, hu, htime', hevent', hnumbers'⟩ := htrack (-0.0) (by decide) (by decide +kernel)
  have htell := (profiles_tell (Sample.fed_booked 0.0) (Sample.fed_booked (-0.0))).2.2.1
  exact ⟨t, u, ht, hu, htime, hevent,
    htell "1" "1" t u ht hu hnumbers hnumbers' (htime.trans htime'.symm) (hevent.trans hevent'.symm)⟩

end Scenography
