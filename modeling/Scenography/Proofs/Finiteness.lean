import Scenography.Proofs.Finite.Plane
import Scenography.Proofs.Finite.Scenes
import Scenography.Proofs.SceneText
/-!
When all doubles of a scene are finite. Numbers are authored finite, and most of what is made of them is finite too.
Three things may exceed all doubles: the time that a relative speed takes, the way that somebody faces at the start,
in degrees, and coordinates added up before they are led to the globe.
-/

namespace Scenography

open Coded Json
open Markup (Element)
open Measured (quantities)
open Timelines (allFinite_node allFinite_iff_all)

section Asked

variable {α : Type}

theorem Inquiry.run_congr {map map' : RoadMap} {p : Inquiry α} (h : ∀ q ∈ p.asked map, map' q = map q) :
    p.run map' = p.run map := by
  induction p with
  | done a => rfl
  | ask q next ih =>
    obtain ⟨hq, hnext⟩ := List.forall_mem_cons.1 h
    rw [run, run, hq]
    exact ih (map q) hnext
  | overflow next ih => exact ih h

theorem Inquiry.run_guarded {map : RoadMap} {p : Inquiry α} (h : ∀ q ∈ p.asked map, q.fromFinite = true) :
    p.run map.guarded = p.run map := by
  refine run_congr fun q hq => ?_
  cases q with
  | toGlobe x y z => exact congrArg Summed.value (if_pos (h _ hq))
  | _ => rfl

end Asked

section Staged

variable {who : Naming} {kept : List Event} {s : Stage} {sources : Sources} {root : Element}

theorem allFinite_ramp {rate stop : Float} {kind : StopKind} : AllFinite (Ramp.mk rate kind stop) ↔ AllFinite [rate, stop] :=
  Iff.rfl

theorem Action.finite_ramp? {a : Action} (ha : a.Steady) (htime : a.EndsInTime) {r : Ramp} (h : a.ramp? = some r) :
    AllFinite r := by
  have hstop : AllFinite a.ending.stop.2 := by
    cases hending : a.ending with
    | none => exact allFinite_double.2 (by decide)
    | time seconds => exact allFinite_double.2 (htime seconds hending)
    | speed target => exact ha target hending
  unfold Action.ramp? at h
  split at h
  next rate _ =>
    rw [Option.some.injEq] at h
    rw [← h, allFinite_ramp]
    exact allFinite_two (allFinite_double.2 rate.isFinite_value) hstop
  next => cases h

theorem Timelines.Traced.allFinite {t : Timelines} {c : Cast} {l : List Action} (h : t.Traced c l)
    (hmerges : AllFinite t.merges) (hactions : ∀ a ∈ l, a.Steady ∧ a.EndsInTime)
    (hfaces : ∀ x, c.Faces x → x.isFinite = true) : AllFinite t := by
  have htimelines : AllFinite t ↔ AllFinite (t.ramps, t.merges, t.speeds, t.walks) := Iff.rfl
  simp only [htimelines, allFinite_pair]
  refine ⟨allFinite_iff_all.2 (h.ramps.imp fun n ⟨hcue, a, ha, hramp⟩ => ?_), hmerges, h.speeds,
    allFinite_iff_all.2 (h.walks.imp fun n ⟨hcue, hspeed, hface⟩ => ?_)⟩
  · exact allFinite_node.2 ⟨hcue, Action.finite_ramp? (hactions a ha).1 (hactions a ha).2 hramp⟩
  · exact allFinite_node.2 ⟨hcue, allFinite_two hspeed (allFinite_double.2 (hfaces _ hface))⟩

theorem Stage.Steady.allFinite_scene_iff (h : s.Steady) (hkept : ∀ e ∈ kept, e.Steady) (hfiled : s.Filed who kept)
    (htraced : s.timelines.Traced s.cast (kept.flatMap Event.actions)) :
    AllFinite s.scene.withReferences ↔ s.scene.withReferences.EndsInTime ∧ s.scene.withReferences.FacesFinite := by
  have hfinished := hfiled.owned.allFinished
  constructor
  · intro hscene
    obtain ⟨hentities, -, -, -, hevents, -, -⟩ := allFinite_scene.1 hscene
    exact ⟨fun e he => (allFinite_event.1 (hevents e he)).2, fun e he => (allFinite_entity.1 (hentities e he)).2⟩
  · rintro ⟨htimes, hfaces⟩
    have hcast {kind : EntityKind} {i : Nat} {e : Entity} (he : (s.cast.ofKind kind).get? i = some e) :
        e ∈ s.scene.withReferences.entities :=
      Scene.mem_entities.2 ⟨kind, i, by rwa [ofKind_scene]⟩
    have hentities : ∀ e ∈ s.scene.withReferences.entities, AllFinite e := by
      intro e he
      obtain ⟨kind, i, hget⟩ := Scene.mem_entities.1 he
      rw [ofKind_scene] at hget
      exact allFinite_entity.2 ⟨h.cast kind i e hget, hfaces e he⟩
    have hevents : ∀ e ∈ s.scene.withReferences.events.values ++ s.scene.withReferences.allEgoEvents, AllFinite e := by
      intro e' he'
      obtain ⟨e, he, hfin⟩ := hfinished.sound e' he'
      exact allFinite_event.2 ⟨hfin.steady (hkept e he), htimes e' he'⟩
    have hactions : ∀ a ∈ kept.flatMap Event.actions, a.Steady ∧ a.EndsInTime := by
      intro a ha
      obtain ⟨e, he, ha⟩ := List.mem_flatMap.1 ha
      obtain ⟨e', he', hfin⟩ := hfinished.complete e he
      exact ⟨(hkept e he).actions a ha, hfin.endsInTime.1 (htimes e' he') a ha⟩
    have hface : ∀ x, s.cast.Faces x → x.isFinite = true := by
      rintro x ⟨kind, i, e, he, rfl⟩
      unfold Entity.face
      cases hpose : e.pose with
      | none => decide
      | some p => exact hfaces e (hcast he) p hpose
    have hplanner : AllFinite s.scene.withReferences.plannerEvents := by
      rw [Scene.withReferences_mirrored hfiled.plannerEvents, allFinite_allEgoEvents]
      exact fun e he => hevents e (List.mem_append_right _ he)
    exact allFinite_scene.2 ⟨hentities, h.routes, h.signals, htraced.allFinite h.merges hactions hface, hevents, hplanner,
      h.weather⟩

theorem finalStage_steady {map : RoadMap} (h : (told sources map root).2.Steady) : (finalStage sources map root).Steady :=
  have hcast := (shareTimelines_sameEvents sources map (told sources map root).2).cast
  { cast := h.cast.same hcast.measures
    routes := h.routes
    signals := h.signals
    weather := h.weather
    merges := h.merges }

theorem finalStage_traced {map : RoadMap} {l : List Action}
    (h : (told sources map root).2.timelines.Traced (told sources map root).2.cast l) :
    (finalStage sources map root).timelines.Traced (finalStage sources map root).cast l :=
  h.same (shareTimelines_sameEvents sources map (told sources map root).2).cast.faces

theorem read?_write_of_allFinite {staged : Staged} (h : AllFinite staged.scene)
    (hcounts : ∀ n, .count n ∈ quantities staged.scene → n < UInt32.size)
    (hreads : ∀ x, .double x ∈ quantities staged.scene → x.isFinite = true → ReadsBack x) (l : Layout) :
    (read? ((encode staged).write l 0)).bind decode? = some staged := by
  have hreadable : Readable staged := by
    intro q hq
    cases q with
    | double x => exact ⟨h x hq, hreads x hq (h x hq)⟩
    | count n => exact hcounts n hq
  have hstaged : Legible written maxDepth staged := legible_staged hreadable
  rw [read?_write l hstaged.fits, Option.bind_some]
  exact hstaged.reads

/-- On the flat map the doubles of a scene are all finite exactly when the times that end its actions are and
the ways that entities face, provided that what the sources add is finite and that only finite coordinates are led to
the globe. Then the scene's text stands for it again. The map's scale of longitudes, a cosine, may be any that is not
tiny. -/
theorem staged_finite_iff {k : Float} (hk : 2.0 ≤ k) (hsources : sources.Steady) {staged : Staged}
    (h : (stage sources root).run (Plane.scaled k).roadMap = .ok staged)
    (hasked : ∀ q ∈ (stage sources root).asked (Plane.scaled k).roadMap, q.fromFinite = true) :
    (AllFinite staged.scene ↔ staged.scene.EndsInTime ∧ staged.scene.FacesFinite) ∧
    (staged.scene.EndsInTime → staged.scene.FacesFinite →
      (∀ n, .count n ∈ quantities staged.scene → n < UInt32.size) →
      (∀ x, .double x ∈ quantities staged.scene → x.isFinite = true → ReadsBack x) →
      ∀ l, (read? ((encode staged).write l 0)).bind decode? = some staged) := by
  have hiff : AllFinite staged.scene ↔ staged.scene.EndsInTime ∧ staged.scene.FacesFinite := by
    rw [← Inquiry.run_guarded hasked] at h
    obtain ⟨sections, hroot, rfl⟩ := run_stage h
    obtain ⟨hkept, htold⟩ := told_steady hsources (Plane.guarded_steady hk) hroot
    exact (finalStage_steady htold).allFinite_scene_iff hkept (finalStage_filed hroot)
      (finalStage_traced (told_traced hroot))
  exact ⟨hiff, fun htimes hfaces hcounts hreads => read?_write_of_allFinite (hiff.2 ⟨htimes, hfaces⟩) hcounts hreads⟩

end Staged

namespace Sample

def hurried (start : List Element) (delta rate : String) : Element :=
  .of "OpenSCENARIO" [] [
    .of "FileHeader" [] [],
    .of "Entities" [] [
      .of "ScenarioObject" [("name", "Ego")] [.of "Vehicle" [("name", "Sedan")] []],
      .of "ScenarioObject" [("name", "Car")] [.of "Vehicle" [("name", "Sedan")] []]],
    .of "Storyboard" [] [
      .of "Init" [] [.of "Actions" [] [.of "Private" [("entityRef", "Ego")] start]],
      .of "Story" [] [.of "Act" [] [group "car" [event [timeTest "1"] [faster]]]]]]
where
  faster : Element :=
    .of "Action" [("name", "go")] [.of "PrivateAction" [] [.of "LongitudinalAction" [] [.of "SpeedAction" [] [
      .of "SpeedActionDynamics" [("dynamicsShape", "linear"), ("value", rate)] [],
      .of "SpeedActionTarget" [] [.of "RelativeTargetSpeed" [("value", delta)] []]]]]]

def standing (x y heading : String) : Element :=
  .of "PrivateAction" [] [.of "TeleportAction" [] [
    .of "Position" [] [.of "WorldPosition" [("x", x), ("y", y), ("h", heading)] []]]]

def calm : Element :=
  hurried [standing "30" "-12.5" "1.5"] "20" "4"

def rushed : Element :=
  hurried [] "1e200" "1e-200"

end Sample

theorem bare_steady : Sources.bare.Steady where
  settings := allFinite_doubles.2 (by decide)
  entries := nofun

instance (a : Action) : Decidable a.EndsInTime :=
  match h : a.ending with
  | .none => .isTrue (by simp [Action.EndsInTime, h])
  | .time seconds => decidable_of_iff (seconds.isFinite = true) (by simp [Action.EndsInTime, h])
  | .speed _ => .isTrue (by simp [Action.EndsInTime, h])

instance (s : Scene) : Decidable s.EndsInTime :=
  inferInstanceAs (Decidable (∀ e ∈ s.events.values ++ s.allEgoEvents, ∀ a ∈ e.actions, a.EndsInTime))

instance (s : Scene) : Decidable s.FacesFinite :=
  inferInstanceAs (Decidable (∀ e ∈ s.entities, ∀ p ∈ e.pose, p.angle.isFinite = true))

theorem calm_finite : ∃ staged,
    (stage .bare Sample.calm).run (Plane.scaled 98289.72603705575).roadMap = .ok staged ∧
    AllFinite staged.scene ∧ (read? ((encode staged).write .block 0)).bind decode? = some staged ∧
    staged.scene.egos.values.map (·.pose.isSome) = [true] ∧
    staged.scene.events.values.map (·.actions.map (·.ending.stop)) = [[(.time, 5.0)]] := by
  have hasked : ∀ q ∈ (stage .bare Sample.calm).asked (Plane.scaled 98289.72603705575).roadMap, q.fromFinite = true := by
    decide +kernel
  obtain ⟨staged, hstaged, htimes, hfaces, hreadable, hplace, hendings⟩ : ∃ staged,
      (stage .bare Sample.calm).run (Plane.scaled 98289.72603705575).roadMap = .ok staged ∧
      staged.scene.EndsInTime ∧ staged.scene.FacesFinite ∧ (∀ q ∈ quantities staged.scene, q.Readable) ∧
      staged.scene.egos.values.map (·.pose.isSome) = [true] ∧
      staged.scene.events.values.map (·.actions.map (·.ending.stop)) = [[(.time, 5.0)]] :=
    ⟨_, run_stage_of_isOk (by decide +kernel), by decide +kernel, by decide +kernel, by decide +kernel, by decide +kernel,
      by decide +kernel⟩
  obtain ⟨hfinite, hreads⟩ := staged_finite_iff (by decide) bare_steady hstaged hasked
  exact ⟨staged, hstaged, hfinite.2 ⟨htimes, hfaces⟩, hreads htimes hfaces (fun n hn => hreadable (.count n) hn)
    (fun x hx _ => (hreadable (.double x) hx).2) .block, hplace, hendings⟩

theorem rushed_infinite : Sources.bare.Steady ∧ ∃ staged : Staged,
    (stage .bare Sample.rushed).run Plane.standard.roadMap = .ok staged ∧
    ¬AllFinite staged.scene ∧ ((read? ((encode staged).write .block 0)).bind decode? : Option Staged) = none := by
  obtain ⟨staged, hstaged, hdouble, hfits, hnone⟩ : ∃ staged : Staged,
      (stage .bare Sample.rushed).run Plane.standard.roadMap = .ok staged ∧
      .double (1.0 / 0.0) ∈ quantities staged.scene ∧ (encode staged).Fits maxDepth ∧
      (decode? ((encode staged).refit written) : Option Staged).isNone :=
    ⟨_, run_stage_of_isOk (by decide +kernel), by decide +kernel, by decide +kernel, by decide +kernel⟩
  refine ⟨bare_steady, staged, hstaged, fun h => ?_, ?_⟩
  · exact absurd (h _ hdouble) (by decide)
  · rw [read?_write .block hfits, Option.bind_some, Option.isNone_iff_eq_none.1 hnone]

end Scenography
