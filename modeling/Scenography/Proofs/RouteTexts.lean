import Scenography.Proofs.LaneChange
import Scenography.Proofs.ProfileTexts
import Scenography.Proofs.Steps

namespace Scenography

section Separators

variable {c : Char}

theorem notMem_fixed (hc : c ∈ separators) (places : Nat) (x : Float) : c ∉ (Number.fixed places x).toList :=
  fun h => not_isNumeral hc (Number.mem_fixed h)

theorem Waypoint.semicolon_notMem_summary (w : Waypoint) : ';' ∉ w.summary.toList := by
  have hplaces := notMem_fixed semicolon_mem_separators 8
  have htidy := notMem_tidy semicolon_mem_separators w.alt
  exact notMem_append_comma (by decide) (notMem_append_comma (by decide) (hplaces w.lon) (hplaces w.lat)) htidy

theorem Waypoint.summary_ne_empty (w : Waypoint) : w.summary ≠ "" := by
  rw [summary, comma_eq]
  exact Text.append_sep_ne_empty _ _

end Separators

namespace Route

def passed (r : Route) : List Waypoint :=
  r.path.tail.dropLast

/-- The route leads through the spots, and its texts tell of its path. -/
structure Follows (r : Route) (spots : List Spot) : Prop where
  path : r.path = spots.map (·.waypoint)
  start : r.path.head?.map (·.summary) = some r.start
  stop_eq_none_iff : r.stop = none ↔ r.path.length = 1
  stop : ∀ text, r.stop = some text → r.path.getLast?.map (·.summary) = some text
  between_eq_empty_iff : r.between = "" ↔ r.passed = []
  between : r.between ≠ "" → Text.split ';' r.between = r.passed.map (·.summary)

section Between

variable (l : List Waypoint)

theorem split_summaries (h : l ≠ []) :
    Text.split ';' (String.intercalate ";" (l.map (·.summary))) = l.map (·.summary) := by
  refine Text.split_intercalate (by simpa using h) fun s hs => ?_
  obtain ⟨w, -, rfl⟩ := List.mem_map.1 hs
  exact w.semicolon_notMem_summary

theorem intercalate_summaries_eq_empty_iff : String.intercalate ";" (l.map (·.summary)) = "" ↔ l = [] := by
  constructor
  · intro h
    by_contra hne
    have hsplit := split_summaries l hne
    rw [h] at hsplit
    -- an empty text has one piece, which is empty, and no summary is
    obtain ⟨w, ws, rfl⟩ := List.exists_cons_of_ne_nil hne
    exact w.summary_ne_empty (List.cons.inj hsplit).1.symm
  · rintro rfl
    rfl

end Between

theorem through_follows (id : Nat) (owner : String) (kind : RouteKind) (first : Spot) (rest : List Spot) :
    (through id owner kind first.waypoint (rest.map (·.waypoint))).Follows (first :: rest) where
  path := rfl
  start := rfl
  stop_eq_none_iff := by
    cases rest with
    | nil => simp [through]
    | cons second rest => simp [through]
  stop := by
    intro text htext
    cases rest with
    | nil => cases htext
    | cons second rest => exact htext
  between_eq_empty_iff := intercalate_summaries_eq_empty_iff _
  between := fun hne => split_summaries _ fun h => hne ((intercalate_summaries_eq_empty_iff _).2 h)

end Route

theorem Spot.waypoint_ofPose (s : Spot) (angle : Float) : (ofPose (s.pose angle)).waypoint = s.waypoint := by
  obtain ⟨lon, lat, alt, heading, lane⟩ := s
  cases lane <;> rfl

namespace Staging

/-- Whoever is known and holds no route is given one through all spots of a plan that has any, and its texts tell of its
path. The plan of somebody who only stands somewhere leads to that spot, whatever way it looks. -/
theorem attachRoute_follows :
    (∀ sources map s owner plan,
      ((exec sources map (attachRoute owner plan) s).1.isSome ↔
        plan.spots ≠ [] ∧ ∃ e, s.cast.find? owner = some e ∧ e.route = none) ∧
      ∀ id, (exec sources map (attachRoute owner plan) s).1 = some id →
        ∃ r, (exec sources map (attachRoute owner plan) s).2.routes.get? id = some r ∧ r.Follows plan.spots) ∧
    ∀ (spot : Spot) angle, (RoutePlan.ofPose (spot.pose angle)).spots.map (·.waypoint) = [spot.waypoint] := by
  refine ⟨fun sources map s owner plan => ?_, fun spot angle => congrArg (fun w => [w]) (spot.waypoint_ofPose angle)⟩
  have hattached := exec_attachRoute sources map s owner plan
  generalize exec sources map (attachRoute owner plan) s = result at hattached ⊢
  obtain ⟨route, t⟩ := result
  dsimp only at hattached ⊢
  cases hattached with
  | refused j hrefused =>
    refine ⟨iff_of_false Bool.false_ne_true ?_, nofun⟩
    rintro ⟨hspots, e, hfind, hfree⟩
    have hheld := hrefused.resolve_left hspots e hfind
    rw [hfree] at hheld
    cases hheld
  | granted hspots hfind hfree =>
    rename_i first rest e
    refine ⟨iff_of_true rfl ⟨hspots ▸ List.cons_ne_nil _ _, e, hfind, hfree⟩, ?_⟩
    intro id hid
    obtain rfl := Option.some.inj hid
    rw [hspots]
    exact ⟨_, KeyMap.get?_insert_self _ _ _, Route.through_follows _ _ _ _ _⟩

end Staging

namespace Sample

def parked : Stage :=
  { cast := ({} : Cast).add car }

def tour : RoutePlan :=
  ⟨.assigned, [⟨1.0, 2.0, 0.0, 0.0, none⟩, ⟨1.5, 2.0, 0.25, 0.0, none⟩, ⟨2.0, 2.0, -1.0, 0.0, none⟩,
    ⟨2.0, 2.5, 0.0, 0.0, none⟩]⟩

end Sample

open Staging in
theorem tour_followed : ∃ r, (exec .bare .blank (attachRoute "Car" Sample.tour) Sample.parked).2.routes.get? 0 = some r ∧
    r.Follows Sample.tour.spots ∧ r.path.length = 4 ∧
    Text.split ';' r.between = ["1.50000000,2.00000000,0.25", "2.00000000,2.00000000,-1"] := by
  have hattached : (exec .bare .blank (attachRoute "Car" Sample.tour) Sample.parked).1 = some 0 := rfl
  obtain ⟨r, hr, hfollows⟩ := (attachRoute_follows.1 .bare .blank Sample.parked "Car" Sample.tour).2 0 hattached
  have hpassed : r.passed = (Sample.tour.spots.map (·.waypoint)).tail.dropLast := by rw [Route.passed, hfollows.path]
  have hsplit := hfollows.between fun hempty => by
    rw [hfollows.between_eq_empty_iff, hpassed] at hempty
    cases hempty
  rw [hpassed] at hsplit
  exact ⟨r, hr, hfollows, congrArg List.length hfollows.path, hsplit.trans (by decide)⟩

end Scenography
