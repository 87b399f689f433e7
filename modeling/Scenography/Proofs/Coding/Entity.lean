import Scenography.Proofs.Coding.Basic

namespace Scenography

open Coded Json Measured

variable {f : String → Form} {d : Nat}

section Shared

theorem legible_optionStr (o : Option String) : Legible f d o :=
  legible_option rfl fun s _ => legible_str s

theorem legible_optionDouble {o : Option Float} (h : Readable o) : Legible f d o :=
  legible_option rfl fun _ ho => legible_double (Readable.of_some (ho ▸ h))

theorem legible_optionCount {o : Option Nat} (h : Readable o) : Legible f d o :=
  legible_option rfl fun _ ho => legible_count (Readable.of_some (ho ▸ h))

theorem Readable.double {α : Type} [Measured α] {a : α} {l : List Float} (h : Readable a)
    (hq : quantities a = quantities l) {x : Float} (hx : x ∈ l) : Legible f d x := by
  have hl : Readable l := fun q hmem => h q (hq ▸ hmem)
  exact legible_double (hl.of_mem hx)

end Shared

theorem legible_dialect (c : Dialect) : Legible f d c :=
  legible_choice rfl (fun _ => rfl) (by cases c <;> rfl)

theorem legible_parameterKind (c : ParameterKind) : Legible f d c :=
  legible_choice rfl (fun _ => rfl) (by cases c <;> rfl)

theorem legible_behavior (c : Behavior) : Legible f d c :=
  legible_choice rfl (fun _ => rfl) (by cases c <;> rfl)

theorem legible_parameter (p : Parameter) : Legible f (d + 1) p :=
  .of_record Parameter.members
    [⟨p.name, legible_str p.name⟩, ⟨p.kind, legible_parameterKind p.kind⟩, ⟨p.value, legible_str p.value⟩]
    rfl (by decide) rfl fun j hj => by simp [decode?, hj]

theorem legible_box {b : Box} (h : Readable b) : Legible f (d + 1) b :=
  .of_record Box.members
    [⟨b.length, h.double rfl (by simp)⟩, ⟨b.width, h.double rfl (by simp)⟩, ⟨b.height, h.double rfl (by simp)⟩]
    rfl (by decide) rfl fun j hj => by simp [decode?, hj]

theorem legible_performance {p : Performance} (h : Readable p) : Legible f (d + 1) p :=
  .of_record Performance.members
    [⟨p.maxSpeed, h.double rfl (by simp)⟩, ⟨p.maxAcceleration, h.double rfl (by simp)⟩,
      ⟨p.maxDeceleration, h.double rfl (by simp)⟩]
    rfl (by decide) rfl fun j hj => by simp [decode?, hj]

theorem legible_pose {p : Pose} (h : Readable p) : Legible f (d + 1) p :=
  .of_record Pose.members
    [⟨p.lon, h.double rfl (by simp)⟩, ⟨p.lat, h.double rfl (by simp)⟩, ⟨p.alt, h.double rfl (by simp)⟩,
      ⟨p.heading, h.double rfl (by simp)⟩, ⟨p.road, legible_option rfl fun n _ => legible_uint64 n⟩,
      ⟨p.lane, legible_int64 p.lane⟩, ⟨p.shift, h.double rfl (by simp)⟩, ⟨p.offset, h.double rfl (by simp)⟩,
      ⟨p.angle, h.double rfl (by simp)⟩]
    rfl (by decide) rfl fun j hj => by simp [decode?, hj]

theorem legible_egoProfile {p : EgoProfile} (h : Readable p.performance) : Legible f (d + 2) p :=
  .of_record EgoProfile.members
    [⟨p.group, legible_str p.group⟩, ⟨p.category, legible_str p.category⟩, ⟨p.performance, legible_performance h⟩,
      ⟨p.followsTrajectory, legible_bool p.followsTrajectory⟩, ⟨p.sensors, legible_optionStr p.sensors⟩,
      ⟨p.tracking, legible_optionStr p.tracking⟩, ⟨p.controller, legible_optionStr p.controller⟩,
      ⟨p.lateral, legible_bool p.lateral⟩, ⟨p.longitudinal, legible_bool p.longitudinal⟩]
    rfl (by decide) rfl fun j hj => by simp [decode?, hj]

theorem legible_vehicleProfile {p : VehicleProfile} (h : Readable p.performance) (hangle : Readable p.angle) :
    Legible f (d + 2) p :=
  .of_record VehicleProfile.members
    [⟨p.performance, legible_performance h⟩, ⟨p.aggress, legible_optionStr p.aggress⟩,
      ⟨p.follow, legible_optionStr p.follow⟩, ⟨p.angle, legible_optionDouble hangle⟩,
      ⟨p.tracking, legible_optionStr p.tracking⟩, ⟨p.sensors, legible_optionStr p.sensors⟩,
      ⟨p.onboardUnit, legible_optionStr p.onboardUnit⟩]
    rfl (by decide) rfl fun j hj => by simp [decode?, hj]

theorem legible_pedestrianProfile {p : PedestrianProfile} (h : Readable [p.startTime, p.endTime])
    (hangle : Readable p.angle) : Legible f (d + 2) p :=
  .of_record PedestrianProfile.members
    [⟨p.startTime, h.double rfl (by simp)⟩, ⟨p.endTime, h.double rfl (by simp)⟩,
      ⟨p.angle, legible_optionDouble hangle⟩, ⟨p.tracking, legible_optionStr p.tracking⟩]
    rfl (by decide) rfl fun j hj => by simp [decode?, hj]

theorem legible_profile {p : Profile} (h : Readable p) : Legible f (d + 2) p := by
  cases p with
  | ego p =>
    refine .of_tagged_value EgoProfile.members rfl rfl (by decide) (legible_egoProfile h)
      fun j rest hj hrest => ?_
    simp only [decode?, tag?, hj] at hrest ⊢
    rw [hrest]
    rfl
  | vehicle p =>
    obtain ⟨hperformance, hangle⟩ := h.pair rfl
    refine .of_tagged_value VehicleProfile.members rfl rfl (by decide) (legible_vehicleProfile hperformance hangle)
      fun j rest hj hrest => ?_
    simp only [decode?, tag?, hj] at hrest ⊢
    rw [hrest]
    rfl
  | pedestrian p =>
    obtain ⟨htimes, hangle⟩ := h.pair rfl
    refine .of_tagged_value PedestrianProfile.members rfl rfl (by decide) (legible_pedestrianProfile htimes hangle)
      fun j rest hj hrest => ?_
    simp only [decode?, tag?, hj] at hrest ⊢
    rw [hrest]
    rfl
  | obstacle => exact .of_tag rfl fun j hj => by simp [decode?, tag?, hj, bare?]

theorem legible_entity {e : Entity} (h : Readable e) : Legible f (d + 3) e := by
  obtain ⟨hid, h⟩ := h.pair rfl
  obtain ⟨hbox, h⟩ := h.pair rfl
  obtain ⟨hpose, h⟩ := h.pair rfl
  obtain ⟨hroute, h⟩ := h.pair rfl
  obtain ⟨hspeeds, h⟩ := h.pair rfl
  obtain ⟨hevents, hprofile⟩ := h.pair rfl
  exact .of_record Entity.members
    [⟨e.id, legible_count hid⟩, ⟨e.name, legible_str e.name⟩, ⟨e.type, legible_str e.type⟩, ⟨e.box, legible_box hbox⟩,
      ⟨e.behavior, legible_behavior e.behavior⟩,
      ⟨e.pose, legible_option rfl fun p hp => legible_pose (Readable.of_some (hp ▸ hpose))⟩,
      ⟨e.route, legible_optionCount hroute⟩, ⟨e.startSpeed, hspeeds.double rfl (by simp)⟩,
      ⟨e.maxSpeed, hspeeds.double rfl (by simp)⟩,
      ⟨e.events, legible_list fun n hn => legible_count (hevents.of_mem hn)⟩,
      ⟨e.rampTimeline, legible_optionStr e.rampTimeline⟩, ⟨e.mergeTimeline, legible_optionStr e.mergeTimeline⟩,
      ⟨e.profile, legible_profile hprofile⟩]
    rfl (by decide) rfl fun j hj => by simp [decode?, hj]

end Scenography
