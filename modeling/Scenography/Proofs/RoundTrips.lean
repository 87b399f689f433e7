import Mathlib.Data.Rat.Floor
import Mathlib.Tactic.Linarith
import Mathlib.Tactic.NormNum
import Mathlib.Tactic.Positivity
import Scenography.RoadMap.Plane
/-!
The flat map drawn with exact numbers: a place on a lane is found again from its point of the globe, and ways
along its lane add up.
-/

namespace Scenography

class HalfTurn where
  value : ℚ

namespace Measure

instance [HalfTurn] : Measure ℚ where
  ofNat n := n
  lt x y := x < y
  le x y := x ≤ y
  abs x := |x|
  floor x := ⌊x⌋
  nearest x := if x < 0 then -round (-x) else round x
  halfTurn := HalfTurn.value

theorem nearest_natCast_add [HalfTurn] (n : ℕ) {x : ℚ} (hx : |x| < 1 / 2) :
    Measure.nearest ((n : ℚ) + x) = (n : ℤ) := by
  obtain ⟨hlow, hhigh⟩ := abs_lt.1 hx
  show (if (n : ℚ) + x < 0 then -round (-((n : ℚ) + x)) else round ((n : ℚ) + x)) = (n : ℤ)
  split
  next hneg =>
    -- less than a half below a natural number there is a negative one only for zero
    have hn : n = 0 := by
      have : (n : ℚ) < 1 := by linarith
      exact_mod_cast Nat.lt_one_iff.1 (by exact_mod_cast this)
    subst hn
    rw [round_eq, neg_eq_iff_eq_neg, Int.floor_eq_iff]
    constructor <;> push_cast <;> linarith
  next =>
    rw [round_eq, Int.floor_eq_iff]
    constructor <;> push_cast <;> linarith

end Measure

namespace Plane

/-- Its lanes, its roads and the space between them have an extent. -/
structure Spacious (m : Plane ℚ) : Prop where
  laneWidth : 0 < m.laneWidth
  roadSpacing : 0 < m.roadSpacing
  roadLength : 0 < m.roadLength
  lonScale : 0 < m.lonScale

structure Inside [HalfTurn] (m : Plane ℚ) (road : UInt64) (lane : Int64) (s t : ℚ) : Prop where
  onRoad : 0 < road
  onLane : lane ≠ 0
  start : 0 ≤ s
  stop : s ≤ m.roadLength
  across : |t| < m.laneWidth / 2
  beside : |m.laneMiddle lane + t| < m.roadSpacing / 2

variable {m : Plane ℚ} {road : UInt64} {lane : Int64} {s t : ℚ} {p : LanePoint ℚ}

section Lanes

variable [HalfTurn]

theorem laneMiddle_eq (m : Plane ℚ) (lane : Int64) :
    m.laneMiddle lane = if lane < 0 then -((lane.toInt.natAbs - 1 / 2) * m.laneWidth)
      else (lane.toInt.natAbs - 1 / 2) * m.laneWidth := by
  have hhalf : (Measure.ofNat 1 / Measure.ofNat 2 : ℚ) = 1 / 2 := by simp [Measure.ofNat]
  rw [← hhalf]
  rfl

theorem laneIndex_eq {n : ℕ} (hn : n < 2 ^ 63) (hwidth : 0 < m.laneWidth) (hlow : n * m.laneWidth ≤ |t|)
    (hhigh : |t| < (n + 1) * m.laneWidth) : m.laneIndex t = Int64.ofInt n := by
  have hfloor : Measure.floor (Measure.abs t / m.laneWidth) = (n : ℤ) := by
    refine Int.floor_eq_iff.2 ⟨?_, ?_⟩
    · exact_mod_cast (le_div_iff₀ hwidth).2 hlow
    · exact_mod_cast (div_lt_iff₀ hwidth).2 hhigh
  have hmin : Int64.minValue.toInt = -9223372036854775808 := by decide
  have hmax : Int64.maxValue.toInt = 9223372036854775807 := by decide
  rw [laneIndex, hfloor, Int64.ofIntClamp, dif_pos (by omega), dif_pos (by omega), Int64.ofIntLE_eq_ofInt]

theorem value_laneAt (m : Plane ℚ) (t : ℚ) :
    (m.laneAt t).value = if t < 0 then -(m.laneIndex t + 1) else m.laneIndex t + 1 := by
  simp only [laneAt, Summed.value_bind, Summed.value_pure, Summed.int64, Measure.lt, Measure.ofNat, Nat.cast_zero,
    decide_eq_true_eq]

theorem overflowed_laneAt (m : Plane ℚ) (t : ℚ) :
    (m.laneAt t).overflowed = (Summed.int64 (m.laneIndex t) 1).overflowed := by
  rw [laneAt, Summed.overflowed_bind, Summed.overflowed_pure, Bool.or_false]

theorem laneIndex_laneMiddle_add (hwidth : 0 < m.laneWidth) (hlane : lane ≠ 0) (ht : |t| < m.laneWidth / 2) :
    m.laneIndex (m.laneMiddle lane + t) = Int64.ofInt (lane.toInt.natAbs - 1) := by
  obtain ⟨hlow, hhigh⟩ := abs_lt.1 ht
  have hne : lane.toInt ≠ 0 := fun h => hlane (Int64.toInt_inj.1 h)
  have hmin := lane.le_toInt
  have hmax := lane.toInt_lt
  obtain ⟨n, hn⟩ : ∃ n, lane.toInt.natAbs = n + 1 := ⟨lane.toInt.natAbs - 1, by omega⟩
  have hmiddle : 0 ≤ (n : ℚ) * m.laneWidth := by positivity
  rw [laneIndex_eq (n := n) (by omega) hwidth, hn, Nat.cast_succ, add_sub_cancel_right]
  all_goals
    rw [laneMiddle_eq, hn]
    push_cast
    split
    · rw [abs_of_neg (by linarith)]
      linarith
    · rw [abs_of_nonneg (by linarith)]
      linarith

theorem laneAt_laneMiddle_add (hwidth : 0 < m.laneWidth) (hlane : lane ≠ 0) (ht : |t| < m.laneWidth / 2) :
    (m.laneAt (m.laneMiddle lane + t)).value = lane := by
  obtain ⟨hlow, hhigh⟩ := abs_lt.1 ht
  have hne : lane.toInt ≠ 0 := fun h => hlane (Int64.toInt_inj.1 h)
  obtain ⟨n, hn⟩ : ∃ n, lane.toInt.natAbs = n + 1 := ⟨lane.toInt.natAbs - 1, by omega⟩
  have hmiddle : 0 ≤ (n : ℚ) * m.laneWidth := by positivity
  have hindex : m.laneIndex (m.laneMiddle lane + t) + 1 = Int64.ofInt (n + 1) := by
    rw [laneIndex_laneMiddle_add hwidth hlane ht, hn, Nat.cast_succ, add_sub_cancel_right, Int64.ofInt_add]
    rfl
  rw [value_laneAt, hindex]
  by_cases hside : lane < 0
  · have hsouth : m.laneMiddle lane + t < 0 := by
      rw [laneMiddle_eq, if_pos hside, hn]
      push_cast
      linarith
    have hneg := Int64.lt_iff_toInt_lt.1 hside
    rw [Int64.toInt_zero] at hneg
    rw [if_pos hsouth, ← Int64.ofInt_neg, show -((n : ℤ) + 1) = lane.toInt by omega, Int64.ofInt_toInt]
  · have hnorth : ¬ m.laneMiddle lane + t < 0 := by
      rw [laneMiddle_eq, if_neg hside, hn]
      push_cast
      linarith
    have hpos := Int64.lt_iff_toInt_lt.not.1 hside
    rw [Int64.toInt_zero] at hpos
    rw [if_neg hnorth, show (n : ℤ) + 1 = lane.toInt by omega, Int64.ofInt_toInt]

theorem overflowed_laneAt_laneMiddle_add (hwidth : 0 < m.laneWidth) (hlane : lane ≠ 0) (ht : |t| < m.laneWidth / 2)
    (hleast : lane ≠ Int64.minValue) : (m.laneAt (m.laneMiddle lane + t)).overflowed = false := by
  have hmin := lane.le_toInt
  have hmax := lane.toInt_lt
  have hne : lane.toInt ≠ -9223372036854775808 := fun h => hleast (Int64.toInt_inj.1 h)
  have hone : (1 : Int64).toInt = 1 := by decide
  have hindex : (Int64.ofInt (lane.toInt.natAbs - 1)).toInt = lane.toInt.natAbs - 1 :=
    Int64.toInt_ofInt_of_le (by omega) (by omega)
  rw [overflowed_laneAt, laneIndex_laneMiddle_add hwidth hlane ht, ← Bool.not_eq_true, Summed.int64_overflowed_iff, hindex,
    hone]
  omega

end Lanes

section Roads

variable [HalfTurn]

theorem toPlane_toGlobe (hscale : 0 < m.lonScale) (x y : ℚ) :
    m.toPlane (m.toGlobe x y).1 (m.toGlobe x y).2 = (x, y) := by
  have hlat : (latScale : ℚ) = 111320 := Nat.cast_ofNat
  simp only [toPlane, toGlobe, add_sub_cancel_left, hlat]
  rw [div_mul_cancel₀ x hscale.ne', div_mul_cancel₀ y (by norm_num)]

theorem isOnRoad_iff : m.isOnRoad road s t = true ↔
    0 < road ∧ (0 ≤ s ∧ s ≤ m.roadLength) ∧ |t| < m.roadSpacing / 2 := by
  simp [isOnRoad, Measure.le, Measure.lt, Measure.abs, Measure.ofNat, and_assoc]

theorem roadIndex?_roadY_add (hroad : 0 < road) (hspacing : 0 < m.roadSpacing) (ht : |t| < m.roadSpacing / 2) :
    (m.roadIndex? (m.roadY road + t)).map (Summed.uint64 · 1) = some (pure road) := by
  have hpos : 0 < road.toNat := UInt64.lt_iff_toNat_lt.1 hroad
  have hlt := road.toNat_lt
  have hquotient : (m.roadY road + t) / m.roadSpacing = ((road.toNat - 1 : ℕ) : ℚ) + t / m.roadSpacing := by
    show (((road.toNat - 1 : ℕ) : ℚ) * m.roadSpacing + t) / m.roadSpacing = _
    rw [add_div, mul_div_cancel_right₀ _ hspacing.ne']
  have hhalf : |t / m.roadSpacing| < 1 / 2 := by
    rw [abs_div, abs_of_pos hspacing, div_lt_iff₀ hspacing]
    linarith
  have hsucc : Summed.uint64 (UInt64.ofNat (road.toNat - 1)) 1 = pure road := by
    have hfits : (Summed.uint64 (UInt64.ofNat (road.toNat - 1)) 1).overflowed = false := by
      rw [← Bool.not_eq_true, Summed.uint64_overflowed_iff, UInt64.toNat_ofNat_of_lt' (by change _ < 2 ^ 64; omega)]
      change ¬ _ ≤ road.toNat - 1 + 1
      omega
    have hvalue : UInt64.ofNat (road.toNat - 1) + 1 = road := by
      rw [show (1 : UInt64) = UInt64.ofNat 1 from rfl, ← UInt64.ofNat_add, Nat.sub_add_cancel hpos, UInt64.ofNat_toNat]
    exact congrArg₂ Summed.mk hvalue hfits
  rw [roadIndex?, hquotient, Measure.nearest_natCast_add _ hhalf, if_neg (by omega), Int.toNat_natCast,
    UInt64.ofNatClamp, dif_pos (by change _ < 2 ^ 64; omega), UInt64.ofNatLT_eq_ofNat, Option.map_some, hsucc]

theorem nearest?_of_onRoad? (hm : m.Spacious) (h : (m.onRoad? road s t).value = some p) :
    m.nearest? p.lon p.lat = m.onRoad? road s t := by
  unfold onRoad? at h
  split at h
  next hon =>
    obtain ⟨hroad, -, hside⟩ := isOnRoad_iff.1 hon
    have hglobe : m.toPlane p.lon p.lat = (s, m.roadY road + t) := by
      rw [← Option.some.inj h]
      exact toPlane_toGlobe hm.lonScale _ _
    obtain ⟨index, hindex, hsucc⟩ := Option.map_eq_some_iff.1 (roadIndex?_roadY_add hroad hm.roadSpacing hside)
    have hroad : Summed.uint64 index 1 >>= (fun road' => m.onRoad? road' s (m.roadY road + t - m.roadY road')) =
        m.onRoad? road s t := by
      rw [hsucc]
      change m.onRoad? road s (m.roadY road + t - m.roadY road) = _
      rw [add_sub_cancel_left]
    rw [nearest?, hglobe]
    dsimp only
    rw [hindex]
    exact hroad
  next => cases h

end Roads

section Ways

variable [HalfTurn]

theorem onLane?_eq (h : m.Inside road lane s t) (s' : ℚ) : m.onLane? road lane s' t =
    if 0 ≤ s' ∧ s' ≤ m.roadLength then some <$> m.point road s' (m.laneMiddle lane + t) else pure none := by
  rw [onLane?, if_neg h.onLane, onRoad?]
  simp only [isOnRoad_iff, h.onRoad, h.beside, true_and, and_true]

theorem onLane?_of_inside (h : m.Inside road lane s t) :
    m.onLane? road lane s t = some <$> m.point road s (m.laneMiddle lane + t) := by
  rw [onLane?_eq h, if_pos ⟨h.start, h.stop⟩]

theorem Inside.onLane?_eq_none_iff (h : m.Inside road lane s t) (s' : ℚ) :
    (m.onLane? road lane s' t).value = none ↔ ¬ (0 ≤ s' ∧ s' ≤ m.roadLength) := by
  rw [onLane?_eq h]
  split
  next hs => exact iff_of_false (nomatch ·) (not_not_intro hs)
  next hs => exact iff_of_true rfl hs

theorem Inside.of_onLane? (h : m.Inside road lane s t) {s' : ℚ} (hp : (m.onLane? road lane s' t).value = some p) :
    m.Inside road lane s' t := by
  have hs : 0 ≤ s' ∧ s' ≤ m.roadLength := by
    by_contra hs
    rw [(h.onLane?_eq_none_iff s').2 hs] at hp
    cases hp
  exact { h with start := hs.1, stop := hs.2 }

theorem Inside.overflowed_onLane? (hm : m.Spacious) (h : m.Inside road lane s t) (hleast : lane ≠ Int64.minValue)
    (s' : ℚ) : (m.onLane? road lane s' t).overflowed = false := by
  rw [onLane?_eq h]
  split
  · rw [Summed.overflowed_map, point, Summed.overflowed_map]
    exact overflowed_laneAt_laneMiddle_add hm.laneWidth h.onLane h.across hleast
  · rfl

theorem Inside.fields (hm : m.Spacious) (h : m.Inside road lane s t) (hp : (m.onLane? road lane s t).value = some p) :
    p.road = road ∧ p.lane = lane ∧ p.shift = s ∧ p.offset = t := by
  rw [onLane?_of_inside h, Summed.value_map, Option.some.injEq, point, Summed.value_map,
    laneAt_laneMiddle_add hm.laneWidth h.onLane h.across] at hp
  rw [← hp]
  exact ⟨rfl, rfl, rfl, add_sub_cancel_left _ _⟩

theorem nearest?_of_onLane? (hm : m.Spacious) (h : (m.onLane? road lane s t).value = some p) :
    m.nearest? p.lon p.lat = m.onLane? road lane s t := by
  unfold onLane? at h ⊢
  split at h
  · cases h
  next hlane =>
    rw [if_neg hlane]
    exact nearest?_of_onRoad? hm h

def onward (lane : Int64) (s d : ℚ) : ℚ :=
  if lane < 0 then s + d else s - d

omit [HalfTurn] in
theorem onward_onward (lane : Int64) (s d₁ d₂ : ℚ) : onward lane (onward lane s d₁) d₂ = onward lane s (d₁ + d₂) := by
  unfold onward
  split
  · exact add_assoc s d₁ d₂
  · exact sub_sub s d₁ d₂

theorem Inside.ahead?_eq (hm : m.Spacious) (h : m.Inside road lane s t) (hp : (m.onLane? road lane s t).value = some p)
    (d : ℚ) : m.ahead? p.lon p.lat 0 d =
      m.onLane? road lane s t >>= fun _ => m.onLane? road lane (onward lane s d) t := by
  obtain ⟨hroad, hlane, hshift, hoffset⟩ := h.fields hm hp
  have hway : m.onLane? p.road p.lane (onward p.lane p.shift d) p.offset = m.onLane? road lane (onward lane s d) t := by
    rw [hroad, hlane, hshift, hoffset]
  rw [Plane.ahead?, nearest?_of_onLane? hm hp]
  refine congrArg (fun x : Summed _ => Summed.mk x.value ((m.onLane? road lane s t).overflowed || x.overflowed)) ?_
  rw [hp]
  exact hway

/-- A place inside a lane is found again from its point of the globe; `d` ahead of it lies the place `d` further
along its lane, off the map exactly beyond the road's ends; and two ways ahead come to one. No sum on the way leaves
its type, unless the lane is that of the least number. -/
theorem onLane?_round_trip (hm : m.Spacious) (h : m.Inside road lane s t) :
    ∃ p, (m.onLane? road lane s t).value = some p ∧
      (p.road = road ∧ p.lane = lane ∧ p.shift = s ∧ p.offset = t) ∧
      (m.nearest? p.lon p.lat).value = some p ∧
      (∀ d, (m.ahead? p.lon p.lat 0 d).value = (m.onLane? road lane (onward lane s d) t).value) ∧
      (∀ d, (m.ahead? p.lon p.lat 0 d).value = none ↔
        ¬ (0 ≤ onward lane s d ∧ onward lane s d ≤ m.roadLength)) ∧
      (∀ d₁ d₂ q, (m.ahead? p.lon p.lat 0 d₁).value = some q →
        (m.ahead? q.lon q.lat 0 d₂).value = (m.ahead? p.lon p.lat 0 (d₁ + d₂)).value) ∧
      (lane ≠ Int64.minValue → (m.onLane? road lane s t).overflowed = false ∧
        (m.nearest? p.lon p.lat).overflowed = false ∧ ∀ d, (m.ahead? p.lon p.lat 0 d).overflowed = false) := by
  obtain ⟨p, hp⟩ : ∃ p, (m.onLane? road lane s t).value = some p := by
    rw [onLane?_of_inside h]
    exact ⟨_, rfl⟩
  have hnearest := nearest?_of_onLane? hm hp
  have hahead {s' : ℚ} {q : LanePoint ℚ} (hq : (m.onLane? road lane s' t).value = some q) (d : ℚ) :
      (m.ahead? q.lon q.lat 0 d).value = (m.onLane? road lane (onward lane s' d) t).value := by
    rw [(h.of_onLane? hq).ahead?_eq hm hq, Summed.value_bind]
  refine ⟨p, hp, h.fields hm hp, by rw [hnearest, hp], hahead hp, fun d => ?off, fun d₁ d₂ q hq => ?ways,
    fun hleast => ?fits⟩
  case off =>
    rw [hahead hp]
    exact h.onLane?_eq_none_iff _
  case ways =>
    rw [hahead hp] at hq
    rw [hahead hq, hahead hp, onward_onward]
  case fits =>
    have hfits := h.overflowed_onLane? hm hleast
    refine ⟨hfits s, hnearest ▸ hfits s, fun d => ?_⟩
    rw [h.ahead?_eq hm hp, Summed.overflowed_bind, hfits, hfits]
    rfl

end Ways

section Sample

def Sample.plane : Plane ℚ where
  originLon := 113
  originLat := 28
  laneWidth := 7 / 2
  roadSpacing := 100
  roadLength := 10000
  lonScale := 98289

theorem Sample.plane_spacious : Sample.plane.Spacious where
  laneWidth := by norm_num [Sample.plane]
  roadSpacing := by norm_num [Sample.plane]
  roadLength := by norm_num [Sample.plane]
  lonScale := by norm_num [Sample.plane]

theorem Sample.plane_inside [HalfTurn] : Sample.plane.Inside 2 (-1) 150 (1 / 4) where
  onRoad := by decide
  onLane := by decide
  start := by norm_num
  stop := by norm_num [Sample.plane]
  across := by norm_num [Sample.plane, abs_lt]
  beside := by
    have hside : (-1 : Int64) < 0 := by decide
    have hlane : (-1 : Int64).toInt.natAbs = 1 := by decide
    rw [laneMiddle_eq, if_pos hside, hlane]
    norm_num [Sample.plane, abs_lt]

theorem lane_of_the_second_road_found_again :
    letI : HalfTurn := ⟨22 / 7⟩
    Sample.plane.Spacious ∧ Sample.plane.Inside 2 (-1) 150 (1 / 4) ∧
      ∃ p, (Sample.plane.onLane? 2 (-1) 150 (1 / 4)).value = some p ∧
        (p.road = 2 ∧ p.lane = -1 ∧ p.shift = 150 ∧ p.offset = 1 / 4) ∧
        (Sample.plane.nearest? p.lon p.lat).value = some p ∧
        (∀ d, (Sample.plane.ahead? p.lon p.lat 0 d).value =
          (Sample.plane.onLane? 2 (-1) (onward (-1) 150 d) (1 / 4)).value) ∧
        (∀ d, (Sample.plane.ahead? p.lon p.lat 0 d).value = none ↔
          ¬ (0 ≤ onward (-1) 150 d ∧ onward (-1) 150 d ≤ Sample.plane.roadLength)) ∧
        (∀ d₁ d₂ q, (Sample.plane.ahead? p.lon p.lat 0 d₁).value = some q →
          (Sample.plane.ahead? q.lon q.lat 0 d₂).value = (Sample.plane.ahead? p.lon p.lat 0 (d₁ + d₂)).value) ∧
        (Sample.plane.onLane? 2 (-1) 150 (1 / 4)).overflowed = false ∧
        (Sample.plane.nearest? p.lon p.lat).overflowed = false ∧
        ∀ d, (Sample.plane.ahead? p.lon p.lat 0 d).overflowed = false := by
  let _ : HalfTurn := ⟨22 / 7⟩
  obtain ⟨p, hp, hfields, hnearest, hahead, hoff, hways, hfits⟩ :=
    onLane?_round_trip Sample.plane_spacious Sample.plane_inside
  exact ⟨Sample.plane_spacious, Sample.plane_inside, p, hp, hfields, hnearest, hahead, hoff, hways, hfits (by decide)⟩

end Sample

end Plane

end Scenography
