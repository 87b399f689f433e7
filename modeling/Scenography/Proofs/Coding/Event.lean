import Scenography.Proofs.Coding.Entity

namespace Scenography

open Coded Json Measured

variable {f : String → Form} {d : Nat}

section Choices

theorem legible_edge (c : Edge) : Legible f d c :=
  legible_choice rfl (fun _ => rfl) (by cases c <;> rfl)

theorem legible_comparison (c : Comparison) : Legible f d c :=
  legible_choice rfl (fun _ => rfl) (by cases c <;> rfl)

theorem legible_distanceMode (c : DistanceMode) : Legible f d c :=
  legible_choice rfl (fun _ => rfl) (by cases c <;> rfl)

theorem legible_speedFrame (c : SpeedFrame) : Legible f d c :=
  legible_choice rfl (fun _ => rfl) (by cases c <;> rfl)

theorem legible_laneDirection (c : LaneDirection) : Legible f d c :=
  legible_choice rfl (fun _ => rfl) (by cases c <;> rfl)

theorem legible_controllerMode (c : ControllerMode) : Legible f d c :=
  legible_choice rfl (fun _ => rfl) (by cases c <;> rfl)

theorem legible_channel (c : Channel) : Legible f d c :=
  legible_choice rfl (fun _ => rfl) (by cases c <;> rfl)

theorem legible_commandKind (c : CommandKind) : Legible f d c :=
  legible_choice rfl (fun _ => rfl) (by cases c <;> rfl)

theorem legible_routeKind (c : RouteKind) : Legible f d c :=
  legible_choice rfl (fun _ => rfl) (by cases c <;> rfl)

end Choices

section Conditions

theorem legible_geoPoint {p : GeoPoint} (h : Readable p) : Legible f (d + 1) p :=
  .of_record GeoPoint.members
    [⟨p.lon, h.double rfl (by simp)⟩, ⟨p.lat, h.double rfl (by simp)⟩, ⟨p.alt, h.double rfl (by simp)⟩]
    rfl (by decide) rfl fun j hj => by simp [decode?, hj]

theorem legible_goal {g : Goal} (h : Readable g) : Legible f (d + 2) g := by
  cases g with
  | world point tolerance =>
    obtain ⟨hpoint, htolerance⟩ := h.pair rfl
    exact .of_tagged Goal.worldMembers [⟨point, legible_geoPoint hpoint⟩, ⟨tolerance, legible_double htolerance⟩]
      rfl (by decide) rfl fun j rest hj hrest => by simp [decode?, tagAmong?, hj, hrest]
  | lane road lane s offset tolerance =>
    exact .of_tagged Goal.laneMembers
      [⟨road, legible_str road⟩, ⟨lane, legible_str lane⟩, ⟨s, h.double rfl (by simp)⟩,
        ⟨offset, h.double rfl (by simp)⟩, ⟨tolerance, h.double rfl (by simp)⟩]
      rfl (by decide) rfl fun j rest hj hrest => by simp [decode?, tagAmong?, hj, hrest]

theorem legible_test {t : Test} (h : Readable t) : Legible f (d + 3) t := by
  cases t with
  | time rule value =>
    exact .of_tagged Test.timeMembers [⟨rule, legible_comparison rule⟩, ⟨value, legible_authored value⟩]
      rfl (by decide) rfl fun j rest hj hrest => by simp [decode?, tag?, hj, hrest]
  | laneAttach parameter rule road laneSection lane =>
    exact .of_tagged Test.laneAttachMembers
      [⟨parameter, legible_str parameter⟩, ⟨rule, legible_comparison rule⟩, ⟨road, legible_str road⟩,
        ⟨laneSection, legible_str laneSection⟩, ⟨lane, legible_str lane⟩]
      rfl (by decide) rfl fun j rest hj hrest => by simp [decode?, tag?, hj, hrest]
  | elementState kind reference state =>
    exact .of_tagged Test.elementStateMembers
      [⟨kind, legible_str kind⟩, ⟨reference, legible_str reference⟩, ⟨state, legible_str state⟩]
      rfl (by decide) rfl fun j rest hj hrest => by simp [decode?, tag?, hj, hrest]
  | timeToCollision source target rule value mode =>
    exact .of_tagged Test.timeToCollisionMembers
      [⟨source, legible_str source⟩, ⟨target, legible_str target⟩, ⟨rule, legible_comparison rule⟩,
        ⟨value, legible_authored value⟩, ⟨mode, legible_distanceMode mode⟩]
      rfl (by decide) rfl fun j rest hj hrest => by simp [decode?, tag?, hj, hrest]
  | distance source target rule value mode =>
    exact .of_tagged Test.distanceMembers
      [⟨source, legible_str source⟩, ⟨target, legible_str target⟩, ⟨rule, legible_comparison rule⟩,
        ⟨value, legible_authored value⟩, ⟨mode, legible_distanceMode mode⟩]
      rfl (by decide) rfl fun j rest hj hrest => by simp [decode?, tag?, hj, hrest]
  | point source point distance radius =>
    obtain ⟨hpoint, hradius⟩ := h.pair rfl
    exact .of_tagged Test.pointMembers
      [⟨source, legible_str source⟩, ⟨point, legible_geoPoint hpoint⟩, ⟨distance, legible_authored distance⟩,
        ⟨radius, legible_double hradius⟩]
      rfl (by decide) rfl fun j rest hj hrest => by simp [decode?, tag?, hj, hrest]
  | reach source goal =>
    exact .of_tagged Test.reachMembers [⟨source, legible_str source⟩, ⟨goal, legible_goal h⟩]
      rfl (by decide) rfl fun j rest hj hrest => by simp [decode?, tag?, hj, hrest]
  | speed source target frame rule value unit =>
    exact .of_tagged Test.speedMembers
      [⟨source, legible_str source⟩, ⟨target, legible_optionStr target⟩, ⟨frame, legible_speedFrame frame⟩,
        ⟨rule, legible_comparison rule⟩, ⟨value, legible_authored value⟩, ⟨unit, legible_str unit⟩]
      rfl (by decide) rfl fun j rest hj hrest => by simp [decode?, tag?, hj, hrest]
  | headway source target rule value =>
    exact .of_tagged Test.headwayMembers
      [⟨source, legible_str source⟩, ⟨target, legible_str target⟩, ⟨rule, legible_comparison rule⟩,
        ⟨value, legible_authored value⟩]
      rfl (by decide) rfl fun j rest hj hrest => by simp [decode?, tag?, hj, hrest]

theorem legible_condition {c : Condition} (h : Readable c) : Legible f (d + 4) c := by
  obtain ⟨hdelay, h⟩ := h.pair rfl
  obtain ⟨hcount, htest⟩ := h.pair rfl
  exact .of_record Condition.members
    [⟨c.name, legible_str c.name⟩, ⟨c.delay, legible_double hdelay⟩, ⟨c.edge, legible_edge c.edge⟩,
      ⟨c.count, legible_count hcount⟩, ⟨c.test, legible_test htest⟩]
    rfl (by decide) rfl fun j hj => by simp [decode?, hj]

end Conditions

section Actions

theorem legible_ending {e : Ending} (h : Readable e) : Legible f (d + 1) e := by
  cases e with
  | none => exact .of_tag rfl fun j hj => by simp [decode?, tag?, hj, bare?]
  | time seconds =>
    exact .of_tagged Ending.timeMembers [⟨seconds, legible_double h⟩]
      rfl (by decide) rfl fun j rest hj hrest => by simp [decode?, tag?, hj, hrest]
  | speed target =>
    exact .of_tagged Ending.speedMembers [⟨target, legible_double h⟩]
      rfl (by decide) rfl fun j rest hj hrest => by simp [decode?, tag?, hj, hrest]

theorem legible_optionAuthored (o : Option Authored) : Legible f d o :=
  legible_option rfl fun a _ => legible_authored a

theorem legible_motionLimits (m : MotionLimits) : Legible f (d + 1) m :=
  .of_record MotionLimits.members
    [⟨m.maxAcceleration, legible_optionAuthored m.maxAcceleration⟩,
      ⟨m.maxDeceleration, legible_optionAuthored m.maxDeceleration⟩, ⟨m.maxSpeed, legible_optionAuthored m.maxSpeed⟩]
    rfl (by decide) rfl fun j hj => by simp [decode?, hj]

theorem legible_assistSwitches (s : AssistSwitches) : Legible f (d + 1) s :=
  .of_record AssistSwitches.members
    [⟨s.resume, legible_optionStr s.resume⟩, ⟨s.cancel, legible_optionStr s.cancel⟩,
      ⟨s.faster, legible_optionStr s.faster⟩, ⟨s.slower, legible_optionStr s.slower⟩,
      ⟨s.timeGap, legible_optionStr s.timeGap⟩, ⟨s.setSpeed, legible_optionStr s.setSpeed⟩]
    rfl (by decide) rfl fun j hj => by simp [decode?, hj]

theorem legible_overrides (o : Overrides) : Legible f (d + 1) o :=
  .of_record Overrides.members
    [⟨o.throttle, legible_str o.throttle⟩, ⟨o.brake, legible_str o.brake⟩, ⟨o.clutch, legible_str o.clutch⟩,
      ⟨o.parkingBrake, legible_str o.parkingBrake⟩, ⟨o.steeringWheel, legible_str o.steeringWheel⟩,
      ⟨o.gear, legible_str o.gear⟩]
    rfl (by decide) rfl fun j hj => by simp [decode?, hj]

theorem legible_effect {e : Effect} (h : Readable e) : Legible f (d + 2) e := by
  cases e with
  | ramp rate =>
    exact .of_tagged Effect.rampMembers [⟨rate, legible_authored rate⟩]
      rfl (by decide) rfl fun j rest hj hrest => by simp [decode?, tag?, hj, hrest]
  | step value =>
    exact .of_tagged Effect.stepMembers [⟨value, legible_authored value⟩]
      rfl (by decide) rfl fun j rest hj hrest => by simp [decode?, tag?, hj, hrest]
  | laneChange direction target duration offset =>
    exact .of_tagged Effect.laneChangeMembers
      [⟨direction, legible_laneDirection direction⟩, ⟨target, legible_authored target⟩,
        ⟨duration, legible_authored duration⟩, ⟨offset, legible_authored offset⟩]
      rfl (by decide) rfl fun j rest hj hrest => by simp [decode?, tag?, hj, hrest]
  | keepDistance target distance continuous limits =>
    exact .of_tagged Effect.keepDistanceMembers
      [⟨target, legible_str target⟩, ⟨distance, legible_authored distance⟩, ⟨continuous, legible_bool continuous⟩,
        ⟨limits, legible_option rfl fun m _ => legible_motionLimits m⟩]
      rfl (by decide) rfl fun j rest hj hrest => by simp [decode?, tag?, hj, hrest]
  | activate mode =>
    exact .of_tagged Effect.activateMembers [⟨mode, legible_controllerMode mode⟩]
      rfl (by decide) rfl fun j rest hj hrest => by simp [decode?, tag?, hj, hrest]
  | assign controller switches =>
    exact .of_tagged Effect.assignMembers
      [⟨controller, legible_str controller⟩, ⟨switches, legible_assistSwitches switches⟩]
      rfl (by decide) rfl fun j rest hj hrest => by simp [decode?, tag?, hj, hrest]
  | override overrides =>
    exact .of_tagged Effect.overrideMembers [⟨overrides, legible_overrides overrides⟩]
      rfl (by decide) rfl fun j rest hj hrest => by simp [decode?, tag?, hj, hrest]
  | command channel kind value offset =>
    exact .of_tagged Effect.commandMembers
      [⟨channel, legible_channel channel⟩, ⟨kind, legible_commandKind kind⟩, ⟨value, legible_str value⟩,
        ⟨offset, legible_str offset⟩]
      rfl (by decide) rfl fun j rest hj hrest => by simp [decode?, tag?, hj, hrest]
  | reroute route kind =>
    exact .of_tagged Effect.rerouteMembers [⟨route, legible_optionCount h⟩, ⟨kind, legible_routeKind kind⟩]
      rfl (by decide) rfl fun j rest hj hrest => by simp [decode?, tag?, hj, hrest]

theorem legible_action {a : Action} (h : Readable a) : Legible f (d + 3) a := by
  obtain ⟨hid, h⟩ := h.pair rfl
  obtain ⟨heffect, hending⟩ := h.pair rfl
  exact .of_record Action.members
    [⟨a.name, legible_str a.name⟩, ⟨a.id, legible_optionCount hid⟩, ⟨a.effect, legible_effect heffect⟩,
      ⟨a.ending, legible_ending hending⟩]
    rfl (by decide) rfl fun j hj => by simp [decode?, hj]

end Actions

theorem legible_event {e : Event} (h : Readable e) : Legible f (d + 6) e := by
  obtain ⟨hid, h⟩ := h.pair rfl
  obtain ⟨hconditions, hactions⟩ := h.pair rfl
  exact .of_record Event.members
    [⟨e.id, legible_count hid⟩, ⟨e.name, legible_str e.name⟩, ⟨e.owner, legible_str e.owner⟩,
      ⟨e.conditions, legible_list fun c hc => legible_condition (hconditions.of_mem hc)⟩,
      ⟨e.actions, legible_list fun a ha => legible_action (hactions.of_mem ha)⟩,
      ⟨e.isUserDefined, legible_bool e.isUserDefined⟩]
    rfl (by decide) rfl fun j hj => by simp [decode?, hj]

end Scenography
