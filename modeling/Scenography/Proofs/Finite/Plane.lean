import Scenography.Proofs.Finite.Readers
import Scenography.RoadMap.Plane

namespace Scenography

open Number

def RoadMap.Query.fromFinite : RoadMap.Query → Bool
  | .toGlobe x y z => x.toFloat.isFinite && y.toFloat.isFinite && z.toFloat.isFinite
  | _ => true

def RoadMap.guarded (map : RoadMap) : RoadMap where
  summed
    | .onRoad road s t => map.summed (.onRoad road s t)
    | .onLane road lane s t => map.summed (.onLane road lane s t)
    | .nearest lon lat => map.summed (.nearest lon lat)
    | .toGlobe x y z => if (Query.toGlobe x y z).fromFinite then map.summed (.toGlobe x y z) else return none
    | .toPlane lon lat => map.summed (.toPlane lon lat)
    | .ahead lon lat lane distance => map.summed (.ahead lon lat lane distance)

namespace Plane

def scaled (lonScale : Float) : Plane Float :=
  { standard with lonScale }

section Standard

variable {k : Float}

theorem isFinite_ofIsOnRoad {road : UInt64} {s t : Float} (h : (scaled k).isOnRoad road s t = true) :
    s.isFinite = true ∧ t.isFinite = true := by
  simp only [isOnRoad, Bool.and_eq_true] at h
  obtain ⟨⟨-, hlow, hhigh⟩, hside⟩ := h
  have hlow' : (Float.ofNat 0) ≤ s := of_decide_eq_true hlow
  have hhigh' : s ≤ 10000.0 := of_decide_eq_true hhigh
  have hside' : t.abs < 100.0 / Float.ofNat 2 := of_decide_eq_true hside
  exact ⟨isFinite_of_le_of_le (by decide) (by decide) hlow' hhigh', isFinite_of_abs_lt (by decide) hside'⟩

theorem roadY_atMost (road : UInt64) : AtMost 20 ((scaled k).roadY road).toModel.unpack := by
  have hroads := ofNat_atMost (n := road.toNat - 1) (by have := road.toNat_lt; omega)
  have hspacing : AtMost (-46) (100.0 : Float).toModel.unpack := ⟨by decide, by decide⟩
  exact (mul_atMost hroads hspacing (by decide) (by decide)).toModel (by decide) (by decide)

theorem laneMiddle_atMost (lane : Int64) : AtMost 20 ((scaled k).laneMiddle lane).toModel.unpack := by
  have hlanes := ofNat_atMost (n := lane.toInt.natAbs) (by
    have := lane.le_toInt
    have := lane.toInt_lt
    omega)
  have hhalf : AtMost 12 (Float.ofNat 1 / Float.ofNat 2).toModel.unpack := ⟨by decide, by decide⟩
  have hwidth : AtMost (-51) (3.5 : Float).toModel.unpack := ⟨by decide, by decide⟩
  have hmiddle : AtMost 14 (Float.ofNat lane.toInt.natAbs - Float.ofNat 1 / Float.ofNat 2).toModel.unpack := by
    have hsum := add_atMost hlanes hhalf.neg (Int.le_refl 14) (by decide)
    rw [← sub_eq_add_neg] at hsum
    exact hsum.toModel (by decide) (by decide)
  have hmagnitude := (mul_atMost hmiddle hwidth (i := 20) (by decide) (by decide)).toModel (by decide) (by decide)
  unfold laneMiddle
  dsimp only
  split
  · exact hmagnitude.neg.toModel (by decide) (by decide)
  · exact hmagnitude

theorem isFinite_toGlobe (hk : 2.0 ≤ k) {x y : Float} (hx : x.isFinite = true) (hy : y.isFinite = true) :
    ((scaled k).toGlobe x y).1.isFinite = true ∧ ((scaled k).toGlobe x y).2.isFinite = true := by
  have hlon : AtMost 900 (113.0 : Float).toModel.unpack := ⟨by decide, by decide⟩
  have hlat : AtMost 900 (28.0 : Float).toModel.unpack := ⟨by decide, by decide⟩
  exact ⟨isFinite_add_left hlon (isFinite_div hx hk), isFinite_add_left hlat (isFinite_div hy (by decide))⟩

theorem allFinite_onRoad? (hk : 2.0 ≤ k) {road : UInt64} {s t : Float} {p : LanePoint Float}
    (h : ((scaled k).onRoad? road s t).value = some p) : AllFinite p := by
  unfold onRoad? at h
  split at h
  next hon =>
    obtain ⟨hs, ht⟩ := isFinite_ofIsOnRoad hon
    have hy : ((scaled k).roadY road + t).isFinite = true := isFinite_add_left ((roadY_atMost road).mono (by decide)) ht
    obtain ⟨hlon, hlat⟩ := isFinite_toGlobe hk hs hy
    have hoffset := isFinite_sub ht ((laneMiddle_atMost (k := k) ((scaled k).laneAt t).value).mono (by decide))
    rw [← Option.some.inj h, allFinite_lanePoint, allFinite_doubles]
    simp only [List.forall_mem_cons, List.not_mem_nil, false_imp_iff, implies_true, and_true]
    refine ⟨hlon, hlat, allFinite_double.1 allFinite_zero, hs, hoffset, ?_⟩
    unfold point lanePoint
    rw [Summed.value_map]
    dsimp only
    split
    · decide
    · decide
  next => cases h

theorem allFinite_onLane? (hk : 2.0 ≤ k) {road : UInt64} {lane : Int64} {s t : Float} {p : LanePoint Float}
    (h : ((scaled k).onLane? road lane s t).value = some p) : AllFinite p := by
  unfold onLane? at h
  split at h
  · cases h
  · exact allFinite_onRoad? hk h

theorem onRoad?_of_nearest? {m : Plane Float} {lon lat : Float} {p : LanePoint Float}
    (h : (m.nearest? lon lat).value = some p) : ∃ road s t, (m.onRoad? road s t).value = some p := by
  unfold nearest? at h
  dsimp only at h
  split at h
  · cases h
  · exact ⟨_, _, _, h⟩

theorem onLane?_of_ahead? {m : Plane Float} {lon lat distance : Float} {lane : Int64} {p : LanePoint Float}
    (h : (m.ahead? lon lat lane distance).value = some p) : ∃ road lane s t, (m.onLane? road lane s t).value = some p := by
  unfold ahead? at h
  rw [Summed.value_bind] at h
  split at h
  · cases h
  · exact ⟨_, _, _, _, h⟩

theorem guarded_steady (hk : 2.0 ≤ k) : (scaled k).roadMap.guarded.Steady where
  onRoad := fun _ _ _ _ h => allFinite_onRoad? hk h
  onLane := fun _ _ _ _ _ h => allFinite_onLane? hk h
  nearest := by
    intro lon lat p h
    obtain ⟨road, s, t, hp⟩ := onRoad?_of_nearest? h
    exact allFinite_onRoad? hk hp
  toGlobe := by
    intro x y z p h
    rw [RoadMap.answer, RoadMap.guarded] at h
    dsimp only at h
    split at h
    next hfinite =>
      simp only [RoadMap.Query.fromFinite, Bool.and_eq_true] at hfinite
      obtain ⟨⟨hx, hy⟩, hz⟩ := hfinite
      obtain ⟨hlon, hlat⟩ := isFinite_toGlobe hk hx hy
      rw [← Option.some.inj h, allFinite_point, allFinite_doubles, allFinite_doubles]
      simp only [List.forall_mem_cons, List.not_mem_nil, false_imp_iff, implies_true, and_true]
      exact ⟨⟨hx, hy, hz⟩, hlon, hlat, hz⟩
    next => cases h
  ahead := by
    intro lon lat lane distance p h
    obtain ⟨q, hq, rfl⟩ := Option.map_eq_some_iff.1 h
    obtain ⟨road, lane, s, t, hq⟩ := onLane?_of_ahead? hq
    have hpoint := allFinite_doubles.1 (allFinite_lanePoint.1 (allFinite_onLane? hk hq))
    rw [allFinite_point, allFinite_doubles]
    simp_all

end Standard

end Plane

end Scenography
