import Scenography.Proofs.KeyMap
import Scenography.Proofs.Overflow
import Scenography.Proofs.Quantities
import Scenography.Staging.Document

namespace Scenography

open Measured (quantities)

def AllFinite {α : Type} [Measured α] (a : α) : Prop :=
  ∀ x, .double x ∈ quantities a → x.isFinite = true

section Collections

variable {α β κ : Type} [Measured α] [Measured β]

theorem allFinite_double {x : Float} : AllFinite x ↔ x.isFinite = true := by
  simp [AllFinite, quantities]

@[simp] theorem allFinite_count (n : Nat) : AllFinite n := by
  simp [AllFinite, quantities]

@[simp] theorem allFinite_text (s : String) : AllFinite s := by
  simp [AllFinite, quantities]

@[simp] theorem allFinite_word (i : Int64) : AllFinite i := by
  simp [AllFinite, quantities]

theorem allFinite_pair {p : α × β} : AllFinite p ↔ AllFinite p.1 ∧ AllFinite p.2 := by
  simp only [AllFinite, quantities, List.mem_append]
  exact ⟨fun h => ⟨fun x hx => h x (.inl hx), fun x hx => h x (.inr hx)⟩, fun h x hx => hx.elim (h.1 x) (h.2 x)⟩

theorem allFinite_list {l : List α} : AllFinite l ↔ ∀ a ∈ l, AllFinite a := by
  simp only [AllFinite, quantities, List.mem_flatMap]
  exact ⟨fun h a ha x hx => h x ⟨a, ha, hx⟩, fun h x ⟨a, ha, hx⟩ => h a ha x hx⟩

theorem allFinite_option {o : Option α} : AllFinite o ↔ ∀ a, o = some a → AllFinite a := by
  cases o with
  | none => simp [AllFinite, quantities]
  | some a => simp [AllFinite, quantities]

theorem allFinite_doubles {l : List Float} : AllFinite l ↔ ∀ x ∈ l, x.isFinite = true := by
  simp only [allFinite_list, allFinite_double]

@[simp] theorem allFinite_counts (l : List Nat) : AllFinite l :=
  allFinite_list.2 fun n _ => allFinite_count n

@[simp] theorem allFinite_optionCount (o : Option Nat) : AllFinite o :=
  allFinite_option.2 fun n _ => allFinite_count n

theorem allFinite_getD {a : α} (h : AllFinite a) {o : Option α} (ho : AllFinite o) :
    AllFinite (o.getD a) := by
  cases o with
  | none => exact h
  | some b => exact allFinite_option.1 ho b rfl

theorem allFinite_or {o o' : Option α} (h : AllFinite o) (h' : AllFinite o') :
    AllFinite (o.or o') := by
  cases o with
  | none => exact h'
  | some a => exact h

theorem allFinite_filter {o : Option α} (p : α → Bool) (h : AllFinite o) :
    AllFinite (o.filter p) :=
  allFinite_option.2 fun a ha => allFinite_option.1 h a (Option.filter_eq_some_iff.1 ha).1

theorem allFinite_map {o : Option Float} {f : Float → Float} (hf : ∀ x, AllFinite x → AllFinite (f x))
    (h : AllFinite o) : AllFinite (o.map f) := by
  refine allFinite_option.2 fun y hy => ?_
  obtain ⟨x, hx, rfl⟩ := Option.map_eq_some_iff.1 hy
  exact hf x (allFinite_option.1 h x hx)

theorem allFinite_zero : AllFinite (0.0 : Float) :=
  allFinite_double.2 (by decide)

theorem allFinite_two {x y : Float} (hx : AllFinite x) (hy : AllFinite y) : AllFinite [x, y] :=
  allFinite_list.2 (by simp [hx, hy])

end Collections

section Maps

variable {α β κ : Type} [Measured α] [Measured β] [Key κ] [Measured κ] {m : KeyMap κ α}

theorem allFinite_keyMap : AllFinite m ↔ ∀ p ∈ m.entries, AllFinite p.1 ∧ AllFinite p.2 := by
  have hentries : AllFinite m ↔ AllFinite m.entries := Iff.rfl
  simp only [hentries, allFinite_list, allFinite_pair]

theorem allFinite_empty : AllFinite (∅ : KeyMap κ α) :=
  allFinite_keyMap.2 nofun

theorem AllFinite.insert (hm : AllFinite m) {k : κ} {a : α} (hk : AllFinite k) (ha : AllFinite a) :
    AllFinite (m.insert k a) := by
  refine allFinite_keyMap.2 fun p hp => ?_
  rcases KeyMap.mem_place hp with rfl | hp
  · exact ⟨hk, ha⟩
  · exact allFinite_keyMap.1 hm p hp

theorem allFinite_ofList {l : List (κ × α)} (h : ∀ p ∈ l, AllFinite p.1 ∧ AllFinite p.2) : AllFinite (KeyMap.ofList l) := by
  have hfold (m : KeyMap κ α) (hm : AllFinite m) (l : List (κ × α)) (hl : ∀ p ∈ l, AllFinite p.1 ∧ AllFinite p.2) :
      AllFinite (l.foldl (fun m p => m.insert p.1 p.2) m) := by
    induction l generalizing m with
    | nil => exact hm
    | cons p l ih =>
      obtain ⟨hp, hl⟩ := List.forall_mem_cons.1 hl
      exact ih _ (hm.insert hp.1 hp.2) hl
  exact hfold ∅ allFinite_empty l h

theorem AllFinite.modify [DecidableEq κ] (hm : AllFinite m) {f : α → α} (hf : ∀ a, AllFinite a → AllFinite (f a)) (k : κ) :
    AllFinite (m.modify k f) := by
  refine allFinite_keyMap.2 fun p hp => ?_
  obtain ⟨q, hq, rfl⟩ := List.mem_map.1 hp
  obtain ⟨hkey, hvalue⟩ := allFinite_keyMap.1 hm q hq
  refine ⟨hkey, ?_⟩
  dsimp only
  split
  · exact hf _ hvalue
  · exact hvalue

theorem AllFinite.get? [DecidableEq κ] (hm : AllFinite m) {k : κ} {a : α} (h : m.get? k = some a) : AllFinite a :=
  (allFinite_keyMap.1 hm (k, a) (KeyMap.get?_eq_some_iff.1 h)).2

end Maps

section Spots

instance : Measured (LanePoint Float) where
  quantities p := quantities [p.lon, p.lat, p.alt, p.shift, p.offset, p.yaw]

instance : Measured Spot where
  quantities s := quantities ([s.lon, s.lat, s.alt, s.heading], s.lane)

instance : Measured RoutePlan where
  quantities p := quantities p.spots

theorem allFinite_lanePoint {p : LanePoint Float} : AllFinite p ↔ AllFinite [p.lon, p.lat, p.alt, p.shift, p.offset, p.yaw] :=
  Iff.rfl

theorem allFinite_point {p : GeoPoint} : AllFinite p ↔ AllFinite [p.lon, p.lat, p.alt] :=
  Iff.rfl

theorem allFinite_spot {s : Spot} : AllFinite s ↔ AllFinite [s.lon, s.lat, s.alt, s.heading] ∧ AllFinite s.lane :=
  allFinite_pair

def Pose.Placed (p : Pose) : Prop :=
  AllFinite [p.lon, p.lat, p.alt, p.heading, p.shift, p.offset]

theorem allFinite_pose {p : Pose} : AllFinite p ↔ p.Placed ∧ p.angle.isFinite = true := by
  have hdoubles : AllFinite p ↔ AllFinite [p.lon, p.lat, p.alt, p.heading, p.shift, p.offset, p.angle] := Iff.rfl
  rw [hdoubles, Pose.Placed, allFinite_doubles, allFinite_doubles]
  simp [and_assoc]

theorem Spot.placed_pose {s : Spot} (h : AllFinite s) (angle : Float) : (s.pose angle).Placed := by
  obtain ⟨hspot, hlane⟩ := allFinite_spot.1 h
  rw [Pose.Placed, allFinite_doubles]
  rw [allFinite_doubles] at hspot
  cases hs : s.lane with
  | none => simp_all [Spot.pose]; decide
  | some p =>
    have hp := allFinite_doubles.1 (allFinite_lanePoint.1 (allFinite_option.1 hlane p hs))
    simp_all [Spot.pose]

theorem Spot.allFinite_ofPose {p : Pose} (h : p.Placed) : AllFinite (Spot.ofPose p) := by
  rw [Pose.Placed, allFinite_doubles] at h
  refine allFinite_spot.2 ⟨?_, ?_⟩
  · rw [allFinite_doubles]
    simp_all [Spot.ofPose]
  · refine allFinite_option.2 fun q hq => ?_
    obtain ⟨road, -, rfl⟩ := Option.map_eq_some_iff.1 hq
    rw [allFinite_lanePoint, allFinite_doubles]
    simp_all

theorem Spot.allFinite_ofLane {p : LanePoint Float} (hp : AllFinite p) {heading : Option Float}
    (hheading : AllFinite heading) : AllFinite (Spot.ofLane p heading) := by
  have hp' := allFinite_doubles.1 (allFinite_lanePoint.1 hp)
  refine allFinite_spot.2 ⟨?_, allFinite_option.2 fun q hq => Option.some.inj hq ▸ hp⟩
  rw [allFinite_doubles]
  cases heading with
  | none => simp_all [Spot.ofLane]
  | some x =>
    have hx := allFinite_double.1 (allFinite_option.1 hheading x rfl)
    simp_all [Spot.ofLane]

theorem Spot.allFinite_waypoint {s : Spot} (h : AllFinite s) : AllFinite s.waypoint := by
  obtain ⟨hspot, hlane⟩ := allFinite_spot.1 h
  have hpair : AllFinite s.waypoint ↔ AllFinite ([s.lon, s.lat, s.alt, s.heading],
      [s.lane.map (·.shift), s.lane.map (·.offset)]) := Iff.rfl
  rw [hpair, allFinite_pair]
  refine ⟨hspot, allFinite_list.2 ?_⟩
  cases hs : s.lane with
  | none => simp [allFinite_option]
  | some p =>
    have hp := allFinite_doubles.1 (allFinite_lanePoint.1 (allFinite_option.1 hlane p hs))
    simp_all [allFinite_option, allFinite_double]

theorem allFinite_through (id : Nat) (owner : String) (kind : RouteKind) {first : Spot} {rest : List Spot}
    (h : AllFinite (first :: rest)) :
    AllFinite (Route.through id owner kind first.waypoint (rest.map (·.waypoint))) := by
  have hroute : AllFinite (Route.through id owner kind first.waypoint (rest.map (·.waypoint))) ↔
      AllFinite (id, first.waypoint :: rest.map (·.waypoint)) := Iff.rfl
  rw [hroute, allFinite_pair]
  refine ⟨allFinite_count id, allFinite_list.2 fun w hw => ?_⟩
  rw [← List.map_cons (f := Spot.waypoint)] at hw
  obtain ⟨s, hs, rfl⟩ := List.mem_map.1 hw
  exact Spot.allFinite_waypoint (allFinite_list.1 h s hs)

end Spots

end Scenography
