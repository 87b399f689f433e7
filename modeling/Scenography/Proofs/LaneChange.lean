import Scenography.Proofs.Doubles
import Scenography.Proofs.Timelines
import Scenography.Proofs.Walk
/-!
Changes of lanes say twice where they go: by the direction of the effect, and by the sign of the
node on the timeline, which is positive to the left. Both come from the target lane and the offset,
but only the first one heeds to which side they are counted.
-/

namespace Scenography

open Number

def LaneDirection.Fits : LaneDirection → Int64 → Prop
  | left, sign => 0 < sign
  | right, sign => sign < 0
  | leftInLane, sign => 0 < sign
  | rightInLane, sign => sign < 0
  | none, _ => True

def Dialect.leftward (dialect : Dialect) (x : Float) : Bool :=
  if dialect.countsRightward then x < 0.0 else 0.0 < x

/-- When the sign is right. A lane alone must be counted to the left and be a whole one or none, and so
must an offset within the lane; an offset in another lane must lie to the side that lane lies to. -/
def SignsAgree (dialect : Dialect) (target : Float) : Option Float → Prop
  | none => target == 0.0 ∨ (¬dialect.countsRightward ∧ (1.0 ≤ target ∨ target ≤ -1.0))
  | some offset =>
    if target == 0.0 then offset == 0.0 ∨ ¬dialect.countsRightward
    else dialect.leftward target = true ↔ ¬offset < 0.0

section Directions

variable {dialect : Dialect} {target offset : Float}

theorem of_lane (h : (target == 0.0) = false) :
    LaneDirection.of dialect target offset = if dialect.leftward target then .left else .right := by
  have hne : (target != 0.0) = true := by rw [bne, h]; rfl
  rw [LaneDirection.of, if_pos hne]
  rfl

theorem of_offset (h : (target == 0.0) = true) :
    LaneDirection.of dialect target offset =
      if offset == 0.0 then .none else if dialect.leftward offset then .leftInLane else .rightInLane := by
  have he : ¬(target != 0.0) = true := by simp [bne, h]
  rw [LaneDirection.of, if_neg he]
  rfl

theorem leftward_iff (hf : target.isFinite = true) (h : (target == 0.0) = false) :
    dialect.leftward target = true ↔ (0.0 < target ↔ ¬dialect.countsRightward = true) := by
  unfold Dialect.leftward
  have hs := sign_cases hf h
  by_cases hr : dialect.countsRightward = true
  · simp [hr]
    grind
  · simp [hr]

theorem lane_fits_iff (hf : target.isFinite = true) :
    (LaneDirection.of dialect target 0.0).Fits (toInt64 target) ↔ SignsAgree dialect target none := by
  simp only [SignsAgree]
  by_cases h : (target == 0.0) = true
  · have hz : ((0.0 : Float) == 0.0) = true := rfl
    rw [of_offset h, if_pos hz]
    simp [LaneDirection.Fits, h]
  · rw [Bool.not_eq_true] at h
    have hsign := sign_cases hf h
    have hpos : 1.0 ≤ target → 0.0 < target := zero_lt_of_one_le
    have hneg : target ≤ -1.0 → target < 0.0 := lt_zero_of_le_neg_one
    have hside : dialect.leftward target = true ↔ _ := leftward_iff hf h
    rw [of_lane h]
    by_cases hl : dialect.leftward target = true
    · rw [if_pos hl, LaneDirection.Fits, toInt64_pos, h]
      grind
    · rw [if_neg hl, LaneDirection.Fits, toInt64_neg, h]
      grind

theorem offset_fits_iff (hf : offset.isFinite = true) :
    (LaneDirection.of dialect target offset).Fits (if offset < 0.0 then -1 else 1) ↔
      SignsAgree dialect target (some offset) := by
  have hright : ¬(0 : Int64) < -1 := by decide
  have hleft : ¬(1 : Int64) < 0 := by decide
  simp only [SignsAgree]
  by_cases h : (target == 0.0) = true
  · rw [of_offset h, if_pos h]
    by_cases hz : (offset == 0.0) = true
    · simp [LaneDirection.Fits, hz]
    · rw [Bool.not_eq_true] at hz
      have hsign := sign_cases hf hz
      have hside : dialect.leftward offset = true ↔ _ := leftward_iff hf hz
      by_cases hl : dialect.leftward offset = true
      · simp only [hl, hz, if_true, LaneDirection.Fits]
        grind
      · simp only [hl, hz, LaneDirection.Fits]
        grind
  · rw [if_neg h]
    rw [Bool.not_eq_true] at h
    rw [of_lane h]
    by_cases hl : dialect.leftward target = true
    · rw [if_pos hl, LaneDirection.Fits]
      grind
    · rw [if_neg hl, LaneDirection.Fits]
      grind

theorem fits_mergeOf_iff (dialect : Dialect) (target : Authored) (authored : Option String) (duration : Float) :
    (LaneDirection.of dialect target.value (Authored.mk (authored.getD "")).value).Fits
        (Feed.mergeOf (toInt64 target.value) (authored.map fun o => (Authored.mk o).value) duration).direction ↔
      SignsAgree dialect target.value (authored.map fun o => (Authored.mk o).value) := by
  cases authored with
  | none => exact lane_fits_iff target.isFinite_value
  | some o => exact offset_fits_iff (Authored.isFinite_value _)

end Directions

def Feeding.StoresMerge (f f' : Feeding) (node : Node Merge) : Prop :=
  ∃ id t, f'.entity.mergeTimeline = some id ∧ f'.timelines.merges.get? id = some t ∧
    ∀ m, m ∈ t.nodes ↔ m = node ∨ ∃ before, f.timelines.merges.get? id = some before ∧ m ∈ before.nodes

namespace Feeding

theorem claimMerges_spec (f : Feeding) :
    f.claimMerges.2.timelines = f.timelines ∧ f.claimMerges.2.entity.mergeTimeline = some f.claimMerges.1 := by
  unfold claimMerges
  cases h : Timelines.own? f.entity.mergeTimeline with
  | none => exact ⟨rfl, rfl⟩
  | some id =>
    have hid := (Option.filter_eq_some_iff.1 h).1
    exact ⟨rfl, hid⟩

theorem addMerge_stores {f : Feeding} {cue : Cue} {m : Merge} (h : (f.addMerge cue m).1 = true) :
    f.StoresMerge (f.addMerge cue m).2 (cue.node m) := by
  obtain ⟨htimelines, hid⟩ := f.claimMerges_spec
  cases hs : Timelines.store? f.claimMerges.2.timelines.merges f.claimMerges.1 cue m with
  | none => simp [addMerge, hs] at h
  | some merges =>
    obtain ⟨t, ht, rfl⟩ := Option.map_eq_some_iff.1 hs
    rw [htimelines] at ht
    simp only [addMerge, hs]
    refine ⟨f.claimMerges.1, t, hid, by simp, fun n => ?_⟩
    rw [Timeline.mem_of_add? ht]
    cases f.timelines.merges.get? f.claimMerges.1 with
    | none => simp [Timeline.empty, Cue.node]
    | some before => simp [Cue.node]

end Feeding

open Staging

/-- A request for a change of lanes and the node it puts on a vehicle's timeline go the same way just
when their signs agree. -/
theorem laneChange_fits_iff {sources : Sources} {map : RoadMap} {s : Stage} {owner : String} {behavior : Behavior}
    {e : Markup.Element} {r : Request} {direction : LaneDirection} {target duration shown : Authored}
    {lane : Int64} {offset : Option Float} {length : Float} {f : Feeding} {cue : Cue}
    (hr : (exec sources map (request? owner behavior e).run s).1 = .ok (some r))
    (heffect : r.action.effect = .laneChange direction target duration shown)
    (hfeed : r.feed = some (.merge lane offset length)) (hkind : f.entity.kind = .vehicle)
    (hadd : (f.add cue (.merge lane offset length)).1 = true) :
    ∃ merge, f.StoresMerge (f.add cue (.merge lane offset length)).2 (cue.node merge) ∧
      (direction.Fits merge.direction ↔ SignsAgree s.dialect target.value offset) := by
  have hgated := request?_feedsGated e owner behavior sources map s rfl r hr
  obtain ⟨authored, rfl, hmerge⟩ := hgated.lanes _ _ _ _ heffect _ hfeed
  have hoffset := (Feed.merge.inj hmerge).2.1
  have hfits := fits_mergeOf_iff s.dialect target authored duration.value
  have heq : f.add cue (.merge lane offset length) = f.addMerge cue (Feed.mergeOf (toInt64 target.value)
      (authored.map fun o => (Authored.mk o).value) duration.value) := by
    rw [hmerge]
    unfold Feeding.add
    rw [hkind]
  rw [heq] at hadd ⊢
  rw [hoffset]
  exact ⟨_, Feeding.addMerge_stores hadd, hfits⟩

namespace Sample

def laneAction (lanes : String) : Markup.Element :=
  .of "Action" [("name", "turn")] [.of "PrivateAction" [] [.of "LateralAction" [] [.of "LaneChangeAction" [] [
    .of "LaneChangeActionDynamics" [("value", "4")] [],
    .of "LaneChangeTarget" [] [.of "RelativeTargetLane" [("value", lanes)] []]]]]]

def car : Entity where
  id := 1
  name := "Car"
  type := "Sedan"
  box := .ofVehicle
  behavior := .scripted
  profile := .vehicle ⟨{}, none, none, none, none, none, none⟩

def feeding : Feeding := ⟨.start, {}, car⟩

def cue : Cue := ⟨2.0, .time, .none⟩

end Sample

theorem laneChange_fits_rightward : ∃ r merge,
    (exec .bare .blank (request? "Car" .scripted (Sample.laneAction "-1")).run {}).1 = .ok (some r) ∧
    Sample.feeding.StoresMerge (Sample.feeding.add Sample.cue (.merge (-1) none (Authored.mk "4").value)).2
      (Sample.cue.node merge) ∧ LaneDirection.right.Fits merge.direction := by
  have hr : (exec .bare .blank (request? "Car" .scripted (Sample.laneAction "-1")).run {}).1 =
      .ok (some {
        action := { name := "turn", effect := .laneChange .right ⟨"-1"⟩ ⟨"4"⟩ .zero }
        feed := some (.merge (-1) none (Authored.mk "4").value) }) := rfl
  have hadd : (Sample.feeding.add Sample.cue (.merge (-1) none (Authored.mk "4").value)).1 = true := rfl
  obtain ⟨merge, hstores, hfits⟩ := laneChange_fits_iff hr rfl rfl rfl hadd
  exact ⟨_, merge, hr, hstores, hfits.2 (.inr ⟨by decide, .inr (by decide)⟩)⟩

/-- Where lanes are counted to the right, one lane to the right is put down as one to the left. -/
theorem laneChange_misfits_legacy : ∃ r,
    (exec .bare .blank (request? "Car" .scripted (Sample.laneAction "1")).run { dialect := .legacy }).1 =
      .ok (some r) ∧
    r.action.effect = .laneChange .right ⟨"1"⟩ ⟨"4"⟩ .zero ∧ 1.0 ≤ (Authored.mk "1").value ∧
    r.feed = some (.merge 1 none (Authored.mk "4").value) ∧
    Sample.feeding.StoresMerge (Sample.feeding.add Sample.cue (.merge 1 none (Authored.mk "4").value)).2
      (Sample.cue.node ⟨1, (Authored.mk "4").value, 0.0⟩) ∧ ¬LaneDirection.right.Fits 1 := by
  have hleft : ¬(1 : Int64) < 0 := by decide
  exact ⟨_, rfl, rfl, by decide, rfl, Feeding.addMerge_stores rfl, hleft⟩

end Scenography
