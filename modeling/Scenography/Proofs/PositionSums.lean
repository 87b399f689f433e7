import Scenography.Proofs.Cast
import Scenography.Proofs.Checks
import Scenography.Proofs.Finite.Plane
import Scenography.Proofs.LaneChange
import Scenography.Proofs.Walk
import Scenography.Proofs.Words

namespace Scenography

open Markup (Element)
open Number

theorem toNat_ofNatClamp (n : Nat) : (UInt64.ofNatClamp n).toNat = min n 18446744073709551615 := by
  have hsize : UInt64.size = 18446744073709551616 := rfl
  unfold UInt64.ofNatClamp
  split
  · rw [UInt64.toNat_ofNatLT]
    omega
  · rw [UInt64.toNat_ofNatLT]
    omega

namespace Plane

def BeyondRoads (m : Plane Float) (lon lat : Float) : Prop :=
  18446744073709551616.0 ≤ (m.toPlane lon lat).2 / m.roadSpacing

instance (m : Plane Float) (lon lat : Float) : Decidable (m.BeyondRoads lon lat) :=
  inferInstanceAs (Decidable (_ ≤ _))

section Standard

variable {k : Float}

theorem natAbs_laneIndex_le {road : UInt64} {s t : Float} (h : (scaled k).isOnRoad road s t = true) :
    ((scaled k).laneIndex t).toInt.natAbs ≤ 64 := by
  simp only [isOnRoad, Bool.and_eq_true] at h
  have hside : t.abs < 100.0 / Float.ofNat 2 := of_decide_eq_true h.2
  have habs : AtMost (-47) t.abs.toModel.unpack := abs_atMost_of_lt rfl hside
  have hquotient : AtMost (-47) (t.abs / 3.5).toModel.unpack :=
    (div_atMost (by decide) habs (by decide)).toModel (by decide) (by decide)
  have hfloor := natAbs_floor_le (k := 6) (by decide) hquotient
  have hindex : ((scaled k).laneIndex t).toInt =
      max (-9223372036854775808) (min 9223372036854775807 (toInt Binary64.floor (t.abs / 3.5))) :=
    toInt_ofIntClamp _
  omega

theorem overflowed_lane {road : UInt64} {s t : Float} (h : (scaled k).isOnRoad road s t = true) :
    (Summed.int64 ((scaled k).laneIndex t) 1).overflowed = false := by
  have hle := natAbs_laneIndex_le h
  have hone : (1 : Int64).toInt = 1 := by decide
  rw [← Bool.not_eq_true, Summed.int64_overflowed_iff, hone]
  omega

theorem overflowed_onRoad? (road : UInt64) (s t : Float) : ((scaled k).onRoad? road s t).overflowed = false := by
  unfold onRoad?
  split
  next h =>
    rw [Summed.overflowed_map, point, Summed.overflowed_map, laneAt, Summed.overflowed_bind, overflowed_lane h]
    rfl
  next => rfl

theorem overflowed_onLane? (road : UInt64) (lane : Int64) (s t : Float) :
    ((scaled k).onLane? road lane s t).overflowed = false := by
  unfold onLane?
  split
  · rfl
  · exact overflowed_onRoad? _ _ _

theorem overflowed_nearest?_iff {lon lat : Float} :
    ((scaled k).nearest? lon lat).overflowed = true ↔ (scaled k).BeyondRoads lon lat := by
  obtain ⟨y, hy⟩ : ∃ y, ((scaled k).toPlane lon lat).2 = y := ⟨_, rfl⟩
  have hspacing : (scaled k).roadSpacing = 100.0 := rfl
  have hindex : (scaled k).roadIndex? y = if toInt Binary64.nearest (y / 100.0) < 0 then none
      else some (UInt64.ofNatClamp (toInt Binary64.nearest (y / 100.0)).toNat) := rfl
  have hone : (1 : UInt64).toNat = 1 := rfl
  unfold nearest? BeyondRoads
  dsimp only
  rw [hy, hindex, hspacing]
  split
  next hnone =>
    have hsouth : toInt Binary64.nearest (y / 100.0) < 0 := by simpa using hnone
    refine iff_of_false Bool.false_ne_true fun hbeyond => ?_
    have hle := nearest_of_le hbeyond
    omega
  next index hsome =>
    obtain ⟨hnorth, rfl⟩ : ¬ toInt Binary64.nearest (y / 100.0) < 0 ∧
        UInt64.ofNatClamp (toInt Binary64.nearest (y / 100.0)).toNat = index := by simpa using hsome
    rw [Summed.overflowed_bind, overflowed_onRoad?, Bool.or_false, Summed.uint64_overflowed_iff, toNat_ofNatClamp, hone]
    constructor
    · intro hover
      by_contra hwithin
      have hle := nearest_of_not_le hwithin
      omega
    · intro hbeyond
      have hle := nearest_of_le hbeyond
      omega

variable {p : LanePoint Float}

theorem natAbs_lane_le_of_onRoad? {road : UInt64} {s t : Float} (h : ((scaled k).onRoad? road s t).value = some p) :
    p.lane.toInt.natAbs ≤ 65 := by
  unfold onRoad? at h
  split at h
  next hon =>
    have hle := natAbs_laneIndex_le hon
    have hsum := Summed.toInt_int64 (overflowed_lane hon)
    have hone : (1 : Int64).toInt = 1 := by decide
    rw [Summed.value_map, Option.some.injEq, point, Summed.value_map] at h
    have hlane : p.lane = ((scaled k).laneAt t).value := by rw [← h]; rfl
    rw [hlane, laneAt, Summed.value_bind, Summed.value_pure]
    split
    · rw [Int64.toInt_neg, Int.bmod_eq_of_le] <;> omega
    · omega
  next => cases h

theorem natAbs_lane_le_of_onLane? {road : UInt64} {lane : Int64} {s t : Float}
    (h : ((scaled k).onLane? road lane s t).value = some p) : p.lane.toInt.natAbs ≤ 65 := by
  unfold onLane? at h
  split at h
  · cases h
  · exact natAbs_lane_le_of_onRoad? h

theorem natAbs_lane_le_of_nearest? {lon lat : Float} (h : ((scaled k).nearest? lon lat).value = some p) :
    p.lane.toInt.natAbs ≤ 65 := by
  obtain ⟨road, s, t, hp⟩ := onRoad?_of_nearest? h
  exact natAbs_lane_le_of_onRoad? hp

end Standard

end Plane

def Spot.Near (spot : Spot) : Prop :=
  ∀ p, spot.lane = some p → p.lane.toInt.natAbs ≤ 65

namespace Staging

/-- On a plane like the standard one, a sum leaves its type exactly if a spot is found that is as `C` says; and the lane of
that spot is near. -/
def Sums (k : Float) (C : Spot → Prop) (m : Staging (Option Spot)) : Prop :=
  ∀ sources s,
    (exec? sources (Plane.scaled k).roadMap m s = none ↔
      ∃ spot, (exec sources (Plane.scaled k).roadMap m s).1 = some spot ∧ C spot) ∧
    ∀ spot, (exec sources (Plane.scaled k).roadMap m s).1 = some spot → spot.Near

namespace Sums

variable {k : Float} {α : Type} {C D : Spot → Prop} {shape : Element}

theorem imp {m : Staging (Option Spot)} (h : Sums k C m) (hiff : ∀ spot, C spot ↔ D spot) : Sums k D m := by
  intro sources s
  simp only [← hiff]
  exact h sources s

theorem of_none {m : Staging (Option Spot)} (hm : Fits m)
    (hnone : ∀ sources s, (exec sources (Plane.scaled k).roadMap m s).1 = none) : Sums k C m := by
  intro sources s
  rw [hnone]
  exact ⟨iff_of_false (hm _ _ _) fun ⟨_, h, _⟩ => (nomatch h), fun _ h => (nomatch h)⟩

protected theorem none : Sums k C (pure none) :=
  of_none (.pure none) fun _ _ => rfl

theorem refuse (code message : String) : Sums k C (refuse code message) :=
  of_none (.refuse code message) fun _ _ => rfl

theorem bind {m : Staging α} {f : α → Staging (Option Spot)} (hm : Fits m) (hf : ∀ a, Sums k C (f a)) :
    Sums k C (m >>= f) := by
  intro sources s
  rw [hm.exec?_bind_eq_none_iff, exec_bind]
  exact hf _ _ _

theorem ask_bind {q : RoadMap.Query} {f : q.Answer → Staging (Option Spot)}
    (hq : ((Plane.scaled k).roadMap.summed q).overflowed = false)
    (hf : Sums k C (f ((Plane.scaled k).roadMap q))) : Sums k C (ask q >>= f) := by
  intro sources s
  rw [exec?_bind_eq_none_iff, exec?_ask_eq_none_iff, hq, or_iff_right Bool.false_ne_true, exec_bind, exec_ask]
  exact hf _ _

theorem nearest (lon lat alt heading : Float) : Sums k (fun spot => (Plane.scaled k).BeyondRoads spot.lon spot.lat)
    (ask (.nearest lon lat) >>= fun lane => pure (some ⟨lon, lat, alt, heading, lane⟩)) := by
  intro sources s
  have hsummed : (Plane.scaled k).roadMap.summed (.nearest lon lat) = (Plane.scaled k).nearest? lon lat := by
    change (Plane.scaled k).nearest? (Float.ofBits lon.toBits) (Float.ofBits lat.toBits) = _
    rw [Float.ofBits_toBits, Float.ofBits_toBits]
  rw [Fits.exec?_bind_left_eq_none_iff fun _ => .pure _, exec?_ask_eq_none_iff, hsummed, Plane.overflowed_nearest?_iff,
    exec_bind, exec_ask, exec_pure]
  simp only [Option.some.injEq, exists_eq_left', forall_eq', true_and]
  intro p hp
  rw [RoadMap.answer, hsummed] at hp
  exact Plane.natAbs_lane_le_of_nearest? hp

theorem found {o : Option (LanePoint Float)} (heading : Option Float)
    (ho : ∀ p, o = some p → p.lane.toInt.natAbs ≤ 65) :
    Sums k (fun _ => False) (pure (o.map (Spot.ofLane · heading))) := by
  intro sources s
  refine ⟨iff_of_false (Fits.pure _ _ _ _) fun ⟨_, _, h⟩ => h, fun spot hspot p hp => ?_⟩
  obtain ⟨p', hp', rfl⟩ := Option.map_eq_some_iff.1 hspot
  exact Option.some.inj hp ▸ ho p' hp'

theorem onLane (road : UInt64) (lane : Int64) (t u : Float) (heading : Option Float) : Sums k (fun _ => False)
    (ask (.onLane road lane t u) >>= fun o => pure (o.map (Spot.ofLane · heading))) :=
  .ask_bind (Plane.overflowed_onLane? _ _ _ _) (.found heading fun _ => Plane.natAbs_lane_le_of_onLane?)

theorem onRoad (road : UInt64) (t u : Float) (heading : Option Float) : Sums k (fun _ => False)
    (ask (.onRoad road t u) >>= fun o => pure (o.map (Spot.ofLane · heading))) :=
  .ask_bind (Plane.overflowed_onRoad? _ _ _) (.found heading fun _ => Plane.natAbs_lane_le_of_onRoad?)

theorem exec_onMap {sources : Sources} {map : RoadMap} {s : Stage} (m : Staging (Option Spot)) :
    (exec sources map (m >>= Staging.onMap shape) s).1 = (exec sources map m s).1 := by
  rw [exec_bind]
  unfold Staging.onMap
  split
  next heq => rw [heq]; rfl
  next heq => rw [heq]; rfl

theorem onMap {m : Staging (Option Spot)} (h : Sums k C m) : Sums k C (m >>= Staging.onMap shape) := by
  intro sources s
  rw [Fits.exec?_bind_left_eq_none_iff (onMap_fits shape), exec_onMap]
  exact h sources s

end Sums

section Shapes

variable {k : Float} (shape : Element)

theorem worldSpot_sums : Sums k (fun spot => (Plane.scaled k).BeyondRoads spot.lon spot.lat) (worldSpot shape) := by
  unfold worldSpot
  refine .bind (value_fits _ _) fun x => .bind (value_fits _ _) fun y => .bind (value_fits _ _) fun z => ?_
  refine .bind (value_fits _ _) fun heading => .bind .get fun s => ?_
  split
  · exact .nearest _ _ _ _
  · exact .ask_bind rfl (.nearest _ _ _ _)

theorem relativeWorldSpot_sums :
    Sums k (fun spot => (Plane.scaled k).BeyondRoads spot.lon spot.lat) (relativeWorldSpot shape) := by
  unfold relativeWorldSpot
  refine .bind (anchor?_fits _) fun a => ?_
  split
  · exact .none
  · refine .ask_bind rfl (.bind (value_fits _ _) fun dz => ?_)
    refine .bind (value_fits _ _) fun dx => .bind (value_fits _ _) fun dy => ?_
    exact .ask_bind rfl (.nearest _ _ _ _)

theorem laneSpot_sums : Sums k (fun _ => False) (laneSpot shape) := by
  unfold laneSpot
  refine .bind (value_fits _ _) fun _ => .bind (value_fits _ _) fun _ => .bind (value_fits _ _) fun _ => ?_
  exact .bind (value_fits _ _) fun _ => .bind (heading?_fits _) fun _ => .onLane _ _ _ _ _

theorem roadSpot_sums : Sums k (fun _ => False) (roadSpot shape) := by
  unfold roadSpot
  refine .bind (value_fits _ _) fun _ => .bind (value_fits _ _) fun _ => .bind (value_fits _ _) fun _ => ?_
  exact .onRoad _ _ _ _

theorem relativeRoadSpot_sums (a : Pose) : Sums k (fun _ => False) (relativeRoadSpot shape a) := by
  unfold relativeRoadSpot
  exact .bind (value_fits _ _) fun _ => .bind (value_fits _ _) fun _ => .onLane _ _ _ _ _

theorem fromAnchor_sums {f : Pose → Staging (Option Spot)} (hf : ∀ a, Sums k (fun _ => False) (f a)) :
    Sums k (fun _ => False) (fromAnchor shape f) := by
  unfold fromAnchor
  refine .bind (anchor?_fits _) fun a => ?_
  split
  · exact .none
  · exact (hf _).onMap

theorem shapeSpot_sums (hname : shape.name ≠ "RelativeLanePosition") :
    Sums k (fun spot => (shape.name = "WorldPosition" ∨ shape.name = "RelativeWorldPosition") ∧
      (Plane.scaled k).BeyondRoads spot.lon spot.lat) (shapeSpot shape) := by
  unfold shapeSpot
  split
  next h => exact (worldSpot_sums shape).onMap.imp fun _ => by simp [h]
  next h => exact (relativeWorldSpot_sums shape).onMap.imp fun _ => by simp [h]
  next h => exact (laneSpot_sums shape).onMap.imp fun _ => by simp [h]
  next h => exact (hname h).elim
  next h => exact (roadSpot_sums shape).onMap.imp fun _ => by simp [h]
  next h => exact (fromAnchor_sums shape (relativeRoadSpot_sums shape)).imp fun _ => by simp [h]
  next => exact .refuse _ _

theorem relativeLaneSpot_sums (a : Pose) (sources : Sources) (s : Stage) :
    (exec? sources (Plane.scaled k).roadMap (relativeLaneSpot shape a) s = none ↔
      (Summed.int64 a.lane (toInt64 (exec sources (Plane.scaled k).roadMap (value shape "dLane") s).1)).overflowed = true) ∧
    ∀ spot, (exec sources (Plane.scaled k).roadMap (relativeLaneSpot shape a) s).1 = some spot → spot.Near := by
  have hrest (lane : Int64) : Sums k (fun _ => False) (do
      let s := a.shift + (← value shape "ds")
      let offset ←
        if (shape.attr? "offset").isSome then pure (a.offset + (← value shape "offset")) else pure 0.0
      return (← ask (.onLane (a.road.getD 0) lane s offset)).map (Spot.ofLane · none)) := by
    refine .bind (value_fits _ _) fun _ => ?_
    dsimp only
    split
    · exact .bind (value_fits _ _) fun _ => .onLane _ _ _ _ _
    · exact .onLane _ _ _ _ _
  have hnever (lane : Int64) (t : Stage) := fun h => let ⟨_, _, hfalse⟩ := ((hrest lane sources t).1).1 h; hfalse
  unfold relativeLaneSpot
  rw [(value_fits shape "dLane").exec?_bind_eq_none_iff, exec?_bind_eq_none_iff, exec?_summed_eq_none_iff,
    or_iff_left (hnever _ _), exec_bind, exec_bind, exec_summed]
  exact ⟨Iff.rfl, (hrest _ sources _).2⟩

def laneShift (sources : Sources) (map : RoadMap) (s : Stage) (shape : Element) : Float :=
  (exec sources map (value shape "dLane") (exec sources map (anchor? shape) s).2).1

theorem relativeLane_sums (sources : Sources) (s : Stage) :
    (exec? sources (Plane.scaled k).roadMap (fromAnchor shape (relativeLaneSpot shape)) s = none ↔
      ∃ a, (exec sources (Plane.scaled k).roadMap (anchor? shape) s).1 = some a ∧
        (Summed.int64 a.lane (toInt64 (laneShift sources (Plane.scaled k).roadMap s shape))).overflowed = true) ∧
    ∀ spot, (exec sources (Plane.scaled k).roadMap (fromAnchor shape (relativeLaneSpot shape)) s).1 = some spot →
      spot.Near := by
  unfold fromAnchor laneShift
  rw [(anchor?_fits shape).exec?_bind_eq_none_iff, exec_bind]
  cases (exec sources (Plane.scaled k).roadMap (anchor? shape) s).1 with
  | none => exact ⟨iff_of_false (Fits.pure _ _ _ _) fun ⟨_, h, _⟩ => (nomatch h), fun _ h => (nomatch h)⟩
  | some a =>
    dsimp only
    rw [Fits.exec?_bind_left_eq_none_iff (onMap_fits shape), Sums.exec_onMap]
    simp only [Option.some.injEq, exists_eq_left']
    exact relativeLaneSpot_sums shape a sources _

theorem shapeSpot_near (sources : Sources) (s : Stage) {spot : Spot}
    (h : (exec sources (Plane.scaled k).roadMap (shapeSpot shape) s).1 = some spot) : spot.Near := by
  by_cases hname : shape.name = "RelativeLanePosition"
  · simp only [shapeSpot, hname] at h
    exact (relativeLane_sums shape sources s).2 spot h
  · exact (shapeSpot_sums shape hname sources s).2 spot h

theorem spot?_near (position : Element) (sources : Sources) (s : Stage) {spot : Spot}
    (h : (exec sources (Plane.scaled k).roadMap (spot? position) s).1 = some spot) : spot.Near := by
  unfold spot? at h
  split at h
  · cases h
  · exact shapeSpot_near _ sources s h

end Shapes

end Staging

def Pose.Teleported (map : RoadMap) (p : Pose) : Prop :=
  ∃ sources s position spot angle, (Staging.exec sources map (Staging.spot? position) s).1 = some spot ∧
    p = spot.pose angle

def Stage.Stationed (map : RoadMap) (s : Stage) : Prop :=
  ∀ kind i e p, (s.cast.ofKind kind).get? i = some e → e.pose = some p → p.Teleported map

/-- A shift by `d` lanes leads away from the road, beyond all lanes that have a number. -/
def Pose.ShiftsOut (a : Pose) (d : Float) : Prop :=
  0 < a.lane ∧ 9223372036854775808.0 ≤ d ∨ a.lane < 0 ∧ d ≤ -9223372036854775808.0

instance (a : Pose) (d : Float) : Decidable (a.ShiftsOut d) :=
  inferInstanceAs (Decidable (_ ∨ _))

namespace Staging

section Anchors

variable {sources : Sources} {map : RoadMap} {s : Stage}

theorem Reads.stationed {α : Type} {m : Staging α} (h : Reads m) (map : RoadMap) : Keeps (Stage.Stationed map) m :=
  h.keeps fun _ _ hs => hs

theorem teleport_stationed (owner : String) (action : Element) (hs : s.Stationed map) :
    (exec sources map (teleport owner action) s).2.Stationed map := by
  unfold teleport
  split
  · exact hs
  next position _ =>
    have hspot := (spot?_reads position).stationed map sources map s hs
    rw [exec_bind]
    obtain ⟨found, hfound⟩ : ∃ found, (exec sources map (spot? position) s).1 = found := ⟨_, rfl⟩
    rw [hfound]
    cases found with
    | none => exact hspot
    | some spot =>
      simp only [exec_bind, exec_getCast]
      split
      · exact hspot
      · intro kind i e p he hp
        simp only [exec_bind, exec_get, modifyEntity, exec_modify] at he
        rcases Cast.get?_modify_cases he with ⟨e', -, -, rfl⟩ | he
        · exact ⟨sources, s, position, spot, _, hfound, (Option.some.inj hp).symm⟩
        · exact hspot kind i e p he hp

theorem teleports_stationed (moves : List (String × Element)) (hs : s.Stationed map) :
    (exec sources map (moves.forM fun move => teleport move.1 move.2) s).2.Stationed map := by
  induction moves generalizing s with
  | nil => exact hs
  | cons move moves ih =>
    rw [List.forM_eq_forM, List.forM_cons, exec_bind]
    exact ih (teleport_stationed _ _ hs)

theorem stationed_of_anchor? {shape : Element} {a : Pose} (hs : s.Stationed map)
    (h : (exec sources map (anchor? shape) s).1 = some a) : a.Teleported map := by
  have hname := (attr_reads shape "entityRef").stationed map sources map s hs
  simp only [anchor?, exec_bind, exec_getCast] at h
  split at h
  next p hp =>
    obtain ⟨e, he, hpose⟩ := Option.bind_eq_some_iff.1 hp
    obtain ⟨kind, i, -, hget⟩ := Cast.find?_eq_some_iff.1 he
    exact hname kind i e a hget (hpose.trans h)
  next => cases h

theorem natAbs_lane_le_of_teleported {k : Float} {p : Pose} (h : p.Teleported (Plane.scaled k).roadMap) :
    p.lane.toInt.natAbs ≤ 65 := by
  obtain ⟨sources, s, position, spot, angle, hspot, rfl⟩ := h
  have hnear := spot?_near position sources s hspot
  unfold Spot.pose
  dsimp only
  cases hlane : spot.lane with
  | none => decide
  | some p => exact hnear p hlane

end Anchors

theorem int64_overflowed_iff_shiftsOut {a : Pose} (ha : a.lane.toInt.natAbs ≤ 65) (d : Float) :
    (Summed.int64 a.lane (toInt64 d)).overflowed = true ↔ a.ShiftsOut d := by
  have hleft : 0 < a.lane ↔ 0 < a.lane.toInt := Int64.lt_iff_toInt_lt
  have hright : a.lane < 0 ↔ a.lane.toInt < 0 := Int64.lt_iff_toInt_lt
  have hlow := (toInt64 d).le_toInt
  have hhigh := (toInt64 d).toInt_lt
  rw [Summed.int64_overflowed_iff, Pose.ShiftsOut, hleft, hright]
  by_cases habove : 9223372036854775808.0 ≤ d
  · have hd := toInt64_of_le habove
    have hbelow : ¬ d ≤ -9223372036854775808.0 := fun h => by
      have := toInt64_of_le_neg h
      omega
    simp only [habove, hbelow, and_true, and_false, or_false]
    omega
  · have hd := toInt64_of_not_le habove
    by_cases hbelow : d ≤ -9223372036854775808.0
    · have hd' := toInt64_of_le_neg hbelow
      simp only [habove, hbelow, and_true, and_false, false_or]
      omega
    · have hd' := toInt64_of_not_le_neg hbelow
      simp only [habove, hbelow, and_false, or_false, iff_false]
      omega

def LiesBeyond (sources : Sources) (m : Plane Float) (s : Stage) (position : Element) : Prop :=
  ∃ shape spot, position.firstElement? = some shape ∧
    (shape.name = "WorldPosition" ∨ shape.name = "RelativeWorldPosition") ∧
    (exec sources m.roadMap (spot? position) s).1 = some spot ∧ m.BeyondRoads spot.lon spot.lat

def ShiftsOut (sources : Sources) (m : Plane Float) (s : Stage) (position : Element) : Prop :=
  ∃ shape a, position.firstElement? = some shape ∧ shape.name = "RelativeLanePosition" ∧
    (exec sources m.roadMap (anchor? shape) s).1 = some a ∧ a.ShiftsOut (laneShift sources m.roadMap s shape)

/-- On the standard plane and next to entities that teleports have put there, a position is found by sums that stay in
their types, and is the one that sums without checks lead to, except for points of the world as many roads to the north as
there are words, or more, and for shifts away from the road by two to the 63rd lanes or more: there one sum leaves its
type. -/
theorem exec?_spot?_eq_none_iff {sources : Sources} {s : Stage} {position : Element}
    (hs : s.Stationed Plane.standard.roadMap) :
    (exec? sources Plane.standard.roadMap (spot? position) s = none ↔
      LiesBeyond sources .standard s position ∨ ShiftsOut sources .standard s position) ∧
    ∀ result, exec? sources Plane.standard.roadMap (spot? position) s = some result →
      exec sources Plane.standard.roadMap (spot? position) s = result := by
  have hstandard : Plane.standard = Plane.scaled Plane.standard.lonScale := rfl
  refine ⟨?_, fun result => exec_of_exec?⟩
  cases hfirst : position.firstElement? with
  | none =>
    have hfits : Fits (spot? position) := by
      unfold spot?
      rw [hfirst]
      exact .refuse _ _
    refine iff_of_false (hfits _ _ _) ?_
    rintro (⟨shape, spot, hshape, -⟩ | ⟨shape, a, hshape, -⟩)
    · cases hfirst.symm.trans hshape
    · cases hfirst.symm.trans hshape
  | some shape =>
    have hspot : spot? position = shapeSpot shape := by
      unfold spot?
      rw [hfirst]
    simp only [LiesBeyond, ShiftsOut, hspot, hfirst, Option.some.injEq, exists_and_left, exists_eq_left']
    by_cases hname : shape.name = "RelativeLanePosition"
    · have hshape : shapeSpot shape = fromAnchor shape (relativeLaneSpot shape) := by simp only [shapeSpot, hname]
      have hsums := (relativeLane_sums (k := Plane.standard.lonScale) shape sources s).1
      rw [← hstandard] at hsums
      rw [hshape, hsums]
      simp only [hname, String.reduceEq, or_self, false_and, false_or, true_and]
      refine exists_congr fun a => and_congr_right fun ha => ?_
      have hteleported := stationed_of_anchor? hs ha
      rw [hstandard] at hteleported
      exact int64_overflowed_iff_shiftsOut (natAbs_lane_le_of_teleported hteleported) _
    · have hsums := (shapeSpot_sums (k := Plane.standard.lonScale) shape hname sources s).1
      rw [← hstandard] at hsums
      rw [hsums]
      simp only [hname, false_and, or_false]
      exact ⟨fun ⟨spot, h, hworld, hbeyond⟩ => ⟨hworld, spot, h, hbeyond⟩,
        fun ⟨hworld, spot, h, hbeyond⟩ => ⟨spot, h, hworld, hbeyond⟩⟩

end Staging

theorem Stage.stationed_of_unplaced {map : RoadMap} {s : Stage}
    (h : ∀ kind i e, (s.cast.ofKind kind).get? i = some e → e.pose = none) : s.Stationed map := by
  intro kind i e p he hp
  rw [h kind i e he] at hp
  cases hp

open Staging

namespace Sample

def farPosition : Element :=
  .of "Position" [] [.of "WorldPosition" [("x", "0"), ("y", "1844674407370955161600"), ("z", "0")] []]

def parking : Element :=
  .of "TeleportAction" [] [
    .of "Position" [] [.of "LanePosition" [("roadId", "1"), ("laneId", "-1"), ("s", "100")] []]]

def shift (lanes : String) : Element :=
  .of "RelativeLanePosition" [("entityRef", "Car"), ("dLane", lanes), ("ds", "0")] []

def shifted (lanes : String) : Element :=
  .of "Position" [] [shift lanes]

def parkedCar : Stage :=
  (exec .bare Plane.standard.roadMap ([("Nobody", parking), ("Car", parking)].forM fun move => teleport move.1 move.2)
    { cast := ({} : Cast).add car }).2

theorem parkedCar_stationed : parkedCar.Stationed Plane.standard.roadMap := by
  refine teleports_stationed _ (Stage.stationed_of_unplaced fun kind i e he => ?_)
  have hunplaced : ((({} : Cast).add car).ofKind kind).entries.all (·.2.pose.isNone) = true := by
    cases kind <;> decide
  exact Option.isNone_iff_eq_none.1 (List.all_eq_true.1 hunplaced _ (KeyMap.get?_eq_some_iff.1 he))

end Sample

theorem parked_shifts_checked : Sample.parkedCar.Stationed Plane.standard.roadMap ∧
    exec? .bare Plane.standard.roadMap (spot? (Sample.shifted "9223372036854775808")) Sample.parkedCar ≠ none ∧
    exec? .bare Plane.standard.roadMap (spot? (Sample.shifted "-9223372036854775808")) Sample.parkedCar = none := by
  have hstationed := Sample.parkedCar_stationed
  refine ⟨hstationed, ?stays, ?leaves⟩
  case stays =>
    have hstays : (exec .bare Plane.standard.roadMap (anchor? (Sample.shift "9223372036854775808"))
        Sample.parkedCar).1.all (fun a => !decide (a.ShiftsOut (laneShift .bare Plane.standard.roadMap Sample.parkedCar
          (Sample.shift "9223372036854775808")))) = true := by decide +kernel
    intro hnone
    rcases (exec?_spot?_eq_none_iff hstationed).1.1 hnone with ⟨shape, spot, hshape, hname, -⟩ | ⟨shape, a, hshape, -, ha, hout⟩
    · cases hshape
      exact absurd hname (by decide)
    · cases hshape
      rw [ha] at hstays
      exact absurd hout (by simpa using hstays)
  case leaves =>
    have hleaves : (exec .bare Plane.standard.roadMap (anchor? (Sample.shift "-9223372036854775808"))
        Sample.parkedCar).1.any (fun a => decide (a.ShiftsOut (laneShift .bare Plane.standard.roadMap Sample.parkedCar
          (Sample.shift "-9223372036854775808")))) = true := by decide +kernel
    obtain ⟨a, ha, hout⟩ := (Option.any_eq_true _ _).1 hleaves
    exact (exec?_spot?_eq_none_iff hstationed).1.2 (.inr ⟨_, a, rfl, rfl, ha, of_decide_eq_true hout⟩)

/-- The number of the road there would be the one after the last word. Where sums wrap, that is zero, and the point is on
no road, which nobody is told. -/
theorem far_position_overflows :
    exec? .bare Plane.standard.roadMap (spot? Sample.farPosition) {} = none ∧
    (exec .bare Plane.standard.roadMap (spot? Sample.farPosition) {}).1.map (·.lane) = some none ∧
    (exec .bare Plane.standard.roadMap (spot? Sample.farPosition) {}).2.journal = {} := by
  have hchecked : (exec? .bare Plane.standard.roadMap (spot? Sample.farPosition) {}).isNone = true := by decide +kernel
  have hnone : ((exec .bare Plane.standard.roadMap (spot? Sample.farPosition) {}).1.any fun spot =>
      spot.lane.isNone) = true := by decide +kernel
  refine ⟨Option.isNone_iff_eq_none.1 hchecked, ?_, by decide⟩
  obtain ⟨spot, hspot, hlane⟩ := (Option.any_eq_true _ _).1 hnone
  rw [hspot, Option.map_some, Option.isNone_iff_eq_none.1 hlane]

end Scenography
