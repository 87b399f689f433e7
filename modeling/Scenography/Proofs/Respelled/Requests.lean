import Scenography.Proofs.Respelled.Readers
import Scenography.Staging.Action

namespace Scenography.Staging

open Markup (Element Spelling)

variable {K : Aside → Aside → Prop} {ps : List Parameter} {f : Spelling}

section Requests

variable (hf : f.Faithful ps) (e : Element) (name : String)

theorem absoluteSpeed_agrees (hf : f.Faithful ps) (shape : String) (rate : Authored) :
    Agree K ps Eq (absoluteSpeed name shape rate (e.respell f)) (absoluteSpeed name shape rate e) := by
  unfold absoluteSpeed
  refine .bind (number_agrees hf _ _) fun target => ?_
  split
  · exact .pure rfl
  · exact .pure rfl
  · exact .pure rfl
  · exact .refuse rfl _ _ _ _

include hf

theorem relativeSpeed_agrees (shape : String) (rate : Authored) :
    Agree K ps Eq (relativeSpeed name shape rate (e.respell f)) (relativeSpeed name shape rate e) := by
  unfold relativeSpeed
  split
  · exact .refuse rfl _ _ _ _
  · refine .bind (value_agrees hf _ _) fun delta => ?_
    split
    · exact .refuse rfl _ _ _ _
    · exact .pure rfl

theorem speedAction_agrees : Agree K ps Eq (speedAction name (e.respell f)) (speedAction name e) := by
  unfold speedAction
  simp only [Element.child?_respell, Element.descend?_respell]
  refine .bind (.optionMapM_map fun _ => attr_agrees hf _ _) fun shape =>
    .bind (.optionMapM_map fun _ => number_agrees hf _ _) fun rate => ?_
  cases e.descend? ["SpeedActionTarget", "AbsoluteTargetSpeed"] with
  | some target => exact absoluteSpeed_agrees _ _ hf _ _
  | none =>
    cases e.descend? ["SpeedActionTarget", "RelativeTargetSpeed"] with
    | some target => exact relativeSpeed_agrees hf _ _ _ _
    | none => exact .refuse rfl _ _ _ _

omit hf in
theorem targetLane?_respell : targetLane? (e.respell f) = (targetLane? e).map (·.respell f) := by
  unfold targetLane?
  rw [Element.child?_respell]
  cases e.child? "LaneChangeTarget" with
  | none => rfl
  | some target => simp only [Option.map_some, Option.bind_some, Element.child?_respell, Option.map_or]

theorem laneChange_agrees : Agree K ps Eq (laneChange name (e.respell f)) (laneChange name e) := by
  unfold laneChange
  rw [targetLane?_respell, Element.child?_respell]
  refine .bind (.optionMapM_map fun _ => number_agrees hf _ _) fun target =>
    .bind (.optionMapM_map fun _ => number_agrees hf _ _) fun duration =>
    .bind (attr?_agrees hf _ _) fun offset => .get_bind fun s t hst => ?_
  rw [hst.dialect]
  exact .pure rfl

theorem number?_agrees : Agree K ps Eq (number? (e.respell f) name) (number? e name) :=
  .bind (attr?_agrees hf _ _) fun _ => .pure rfl

theorem motionLimits_agrees : Agree K ps Eq (motionLimits (e.respell f)) (motionLimits e) :=
  .bind (number?_agrees hf _ _) fun _ => .bind (number?_agrees hf _ _) fun _ =>
    .bind (number?_agrees hf _ _) fun _ => .pure rfl

theorem keepDistance_agrees : Agree K ps Eq (keepDistance name (e.respell f)) (keepDistance name e) := by
  unfold keepDistance
  rw [Element.child?_respell]
  exact .bind (.optionMapM_map fun _ => motionLimits_agrees hf _) fun _ => .bind (attr_agrees hf _ _) fun _ =>
    .bind (number_agrees hf _ _) fun _ => .bind (isTrue_agrees hf _ _) fun _ => .pure rfl

theorem activation_agrees : Agree K ps Eq (activation name (e.respell f)) (activation name e) := by
  unfold activation
  refine .bind (attr?_agrees hf _ _) fun lateral => .bind (attr?_agrees hf _ _) fun longitudinal => ?_
  split
  · exact .refuse rfl _ _ _ _
  · exact .pure rfl

theorem switches_agrees (hk : f.KeepsNames) : Agree K ps Eq (switches (e.respell f)) (switches e) := by
  unfold switches
  rw [Element.properties_respell hk, List.foldlM_map]
  exact .foldlM fun s p => .bind (resolve_agrees (hf _ _ _)) fun _ => .pure rfl

theorem actuator_agrees (valueName : String) :
    Agree K ps Eq (actuator (e.respell f) name valueName) (actuator e name valueName) := by
  unfold actuator
  rw [Element.child?_respell]
  cases e.child? name with
  | none => exact .pure rfl
  | some e => exact .bind (attrOr_agrees hf _ _ _) fun _ => .bind (attrOr_agrees hf _ _ _) fun _ => .pure rfl

theorem overriding_agrees : Agree K ps Eq (overriding name (e.respell f)) (overriding name e) :=
  .bind (actuator_agrees hf _ _ _) fun _ => .bind (actuator_agrees hf _ _ _) fun _ =>
    .bind (actuator_agrees hf _ _ _) fun _ => .bind (actuator_agrees hf _ _ _) fun _ =>
    .bind (actuator_agrees hf _ _ _) fun _ => .bind (actuator_agrees hf _ _ _) fun _ => .pure rfl

theorem controllerAction_agrees (hk : f.KeepsNames) :
    Agree K ps Eq (controllerAction name (e.respell f)) (controllerAction name e) := by
  unfold controllerAction
  simp only [Element.child?_respell, Element.descend?_respell]
  refine .bind (.optionMapM_map fun _ => attr_agrees hf _ _) fun controller => ?_
  have hassigned : ((e.descend? ["AssignControllerAction", "Controller"]).map (·.respell f)).filter
        (fun _ => controller.getD "" ≠ "" && controller.getD "" ≠ "none") =
      ((e.descend? ["AssignControllerAction", "Controller"]).filter
        fun _ => controller.getD "" ≠ "" && controller.getD "" ≠ "none").map (·.respell f) :=
    Option.filter_map
  rw [hassigned]
  cases Option.filter _ (e.descend? ["AssignControllerAction", "Controller"]) with
  | some node => exact .bind (switches_agrees hf _ hk) fun _ => .pure rfl
  | none =>
    cases e.child? "OverrideControllerValueAction" with
    | some overrides => exact .bind (overriding_agrees hf _ _) fun _ => .pure rfl
    | none => exact .refuse rfl _ _ _ _

theorem routing_agrees (owner : String) :
    Agree K ps Eq (routing owner name (e.respell f)) (routing owner name e) :=
  .bind (routePlan_agrees hf _ _) fun _ => .pure rfl

theorem customCommand_agrees (hwords : Text.trim (e.respell f).text = Text.trim e.text) :
    Agree K ps Eq (customCommand name (e.respell f)).run (customCommand name e).run := by
  unfold customCommand
  refine .run_bind (.run_lift (attr_agrees hf _ _)) fun type => ?_
  split
  · exact .run_throw _
  · rw [hwords]
    refine .run_bind (.run_lift (resolve_agrees rfl)) fun text => ?_
    split
    · exact .run_throw _
    · exact .run_pure _

theorem privateAction_agrees (hk : f.KeepsNames) (owner : String) :
    Agree K ps Eq (privateAction owner name (e.respell f)) (privateAction owner name e) := by
  unfold privateAction
  simp only [Element.child?_respell, Element.descend?_respell]
  cases e.descend? ["LongitudinalAction", "SpeedAction"] with
  | some a => exact speedAction_agrees hf _ _
  | none =>
  cases e.descend? ["LateralAction", "LaneChangeAction"] with
  | some a => exact .map (laneChange_agrees hf _ _)
  | none =>
  cases e.descend? ["LateralAction", "LateralDistanceAction"] with
  | some a => exact .map (keepDistance_agrees hf _ _)
  | none =>
  cases e.child? "ActivateControllerAction" with
  | some a => exact activation_agrees hf _ _
  | none =>
  cases e.child? "ControllerAction" with
  | some a => exact controllerAction_agrees hf _ _ hk
  | none =>
  cases e.child? "RoutingAction" with
  | some a => exact routing_agrees hf _ _ _
  | none => exact .refuse rfl _ _ _ _

theorem request?_agrees (hk : f.KeepsNames) (owner : String) (behavior : Behavior) :
    Agree K ps Eq (request? owner behavior (e.respell f)).run (request? owner behavior e).run := by
  unfold request?
  rw [Element.child?_respell, Element.descend?_respell]
  refine .run_bind (.run_lift (attr_agrees hf _ _)) fun name => ?_
  cases hcommand : e.descend? ["UserDefinedAction", "CustomCommandAction"] with
  | some command =>
    obtain ⟨action, -, hcommand⟩ := Option.bind_eq_some_iff.1 hcommand
    obtain ⟨command, hname, ⟨⟩⟩ := Option.bind_eq_some_iff.1 hcommand
    have hwords := Element.trim_text_respell f command (Element.name_of_child? hname)
    exact .run_bind (customCommand_agrees hf _ _ hwords) fun _ => .run_pure _
  | none =>
  cases e.child? "PrivateAction" with
  | some action => exact .run_bind (.run_lift (privateAction_agrees hf _ _ hk _)) fun _ => .run_pure _
  | none => exact .run_lift (.refuse rfl _ _ _ _)

end Requests

end Scenography.Staging
