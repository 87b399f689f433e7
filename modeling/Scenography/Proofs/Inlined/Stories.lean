import Scenography.Proofs.Inlined.Elements

namespace Scenography.Staging

open Markup (Element Spelling)

variable {sources : Sources} {map : RoadMap} {ps : List Parameter} {s : Stage} {e e' : Element}

section References

variable {find : String → Option Element} {name : String}

theorem exec_entryName (sources : Sources) (map : RoadMap) (hs : s.parameters.declared = ps) (reference : Element) :
    ∃ j, exec sources map (attr reference "entryName") s = (entryName ps reference, { s with journal := j }) := by
  unfold attr attrOr attr? entryName
  rw [exec_bind]
  cases reference.attr? "entryName" with
  | none => exact ⟨s.journal, rfl⟩
  | some raw =>
    obtain ⟨j, hj⟩ := exec_resolve raw sources map s
    refine ⟨j, ?_⟩
    have hread : exec sources map (Option.mapM resolve (some raw)) s =
        (some (Parameters.meaning ps raw), { s with journal := j }) := by
      rw [← hs]
      show exec sources map (some <$> resolve raw) s = _
      rw [exec_map, hj]
    rw [hread, exec_pure]
    by_cases hempty : Parameters.meaning ps raw = ""
    · simp [hempty, Option.filter_some]
    · simp [hempty, Option.filter_some]

theorem catalogued?_inlined (map : RoadMap) (find : Catalog → String → Option Element)
    (h : Inlined ps (find sources.catalog) name e e') :
    ∃ stood, e'.child? name = some stood ∧
      AgreeAt sources map Eq ps (Option.Rel Element.SameChildren) (catalogued? e find) (pure (some stood)) := by
  obtain ⟨-, reference, fragment, stood, hreference, hfind, hstood, hsame⟩ := h.exists
  refine ⟨stood, hstood, fun s t hst => ?_⟩
  obtain ⟨j, hname⟩ := exec_entryName sources map hst.declared reference
  have hread : exec sources map (catalogued? e find) s = (some fragment, { s with journal := j }) := by
    unfold catalogued?
    rw [hreference]
    dsimp only
    rw [exec_bind, hname, exec_bind, exec_read]
    dsimp only
    rw [hfind, exec_pure]
  unfold AgreeFrom
  rw [hread, exec_pure]
  exact ⟨.some hsame, hst.journal_left j⟩

end References

section Plans

theorem spots_alike {l l' : List Element} (h : List.Forall₂ (Element.Alike .bare) l l') :
    Agree Eq ps Eq (spots l) (spots l') :=
  .across (fun _ => spots_agrees (Spelling.bare_faithful ps)) (Element.forall₂_alike_iff.1 h)

theorem vertices_alike (h : e.SameChildren e') : List.Forall₂ (Element.Alike .bare) (vertices e) (vertices e') := by
  have hpolyline := h.descend? "Shape" ["Polyline"]
  unfold vertices
  generalize e.descend? ["Shape", "Polyline"] = o, e'.descend? ["Shape", "Polyline"] = o' at hpolyline
  cases hpolyline with
  | none => exact .nil
  | some hpolyline => exact hpolyline.childrenNamed _

theorem assignedPlan_inlined (h : InlinedAssignment sources.catalog ps e e') :
    AgreeAt sources map Eq ps Eq (assignedPlan e) (assignedPlan e') := by
  rcases h with halike | hinlined
  · exact .of_agree (.alike (fun _ e => assignedPlan_agrees (Spelling.bare_faithful ps) e) halike)
  · obtain ⟨route, hroute, hcatalogued⟩ := catalogued?_inlined map Catalog.route? hinlined
    unfold assignedPlan
    rw [hinlined.1, hroute]
    refine .bind_of hcatalogued fun o o' ho => .of_agree (.optionMapM_rel ho fun a b hab => ?_)
    exact .bind (spots_alike (hab.childrenNamed _)) fun _ => .pure rfl

theorem trajectoryPlan_inlined (h : InlinedFollowing sources.catalog ps e e') :
    AgreeAt sources map Eq ps Eq (trajectoryPlan e) (trajectoryPlan e') := by
  have hplan (htrajectory : AgreeAt sources map Eq ps (Option.Rel Element.SameChildren) (trajectory? e)
      (trajectory? e')) : AgreeAt sources map Eq ps Eq (trajectoryPlan e) (trajectoryPlan e') := by
    refine .bind_of htrajectory fun o o' ho => .of_agree (.optionMapM_rel ho fun a b hab => ?_)
    exact .bind (spots_alike (vertices_alike hab)) fun _ => .pure rfl
  rcases h with halike | ⟨hnone, hinlined⟩ | ⟨hnone, -, hchanged⟩
  · exact .of_agree (.alike (fun _ e => trajectoryPlan_agrees (Spelling.bare_faithful ps) e) halike)
  · obtain ⟨trajectory, htrajectory, hcatalogued⟩ :=
      catalogued?_inlined map Catalog.trajectory? hinlined
    apply hplan
    unfold trajectory?
    rw [hinlined.1, htrajectory, Element.descend?, hnone]
    exact hcatalogued
  · -- the reference is inside the first `TrajectoryRef`, and so is what it becomes
    obtain ⟨holder, holder', hholder, hinlined, hothers⟩ := hchanged.find?
    have hnamed := List.find?_some hholder
    have hname : holder'.name = "TrajectoryRef" := hinlined.2.1.1.symm.trans (of_decide_eq_true hnamed)
    have hholder : e.child? "TrajectoryRef" = some holder := hholder
    have hholder' : e'.child? "TrajectoryRef" = some holder' := hothers "TrajectoryRef" (.inl rfl) hname
    have hnone' : e'.child? "Trajectory" = none := by
      rw [Element.child?_eq_none_iff] at hnone ⊢
      rwa [← hchanged.names_eq fun _ _ ha => ha.2.1.1]
    obtain ⟨trajectory, htrajectory, hcatalogued⟩ :=
      catalogued?_inlined map Catalog.trajectory? hinlined
    apply hplan
    unfold trajectory?
    simp only [hnone, hnone', Element.descend?, hholder, hholder', Option.bind_some, hinlined.1, htrajectory,
      Option.bind_none, Option.or_none, Option.none_or]
    exact hcatalogued

theorem routePlan_inlined (owner : String) (h : InlinedRouting sources.catalog ps e e') :
    AgreeAt sources map Eq ps Eq (routePlan owner e) (routePlan owner e') := by
  have hassign := h.child? "AssignRouteAction"
  have hfollow := h.child? "FollowTrajectoryAction"
  have hacquire := h.child? "AcquirePositionAction"
  unfold routePlan
  generalize e.child? "AssignRouteAction" = o, e'.child? "AssignRouteAction" = o' at hassign
  generalize e.child? "FollowTrajectoryAction" = o, e'.child? "FollowTrajectoryAction" = o' at hfollow
  generalize e.child? "AcquirePositionAction" = o, e'.child? "AcquirePositionAction" = o' at hacquire
  cases hassign with
  | some hassign => exact assignedPlan_inlined hassign
  | none =>
  cases hfollow with
  | some hfollow => exact trajectoryPlan_inlined hfollow
  | none =>
  cases hacquire with
  | none => exact .of_agree (.refuse rfl _ _ _ _)
  | some hacquire =>
    refine .of_agree (.bind (.alike (fun _ e => ?_) hacquire) fun _ => .pure rfl)
    exact acquiredPlan_agrees (Spelling.bare_faithful ps) e owner

end Plans

section Events

variable (owner name : String)

theorem privateAction_inlined (h : InlinedPrivateAction sources.catalog ps e e') :
    AgreeAt sources map Eq ps Eq (privateAction owner name e) (privateAction owner name e') := by
  have hbare := Spelling.bare_faithful ps
  have hspeed := h.descend? "LongitudinalAction" rfl ["SpeedAction"]
  have hlane := h.descend? "LateralAction" rfl ["LaneChangeAction"]
  have hdistance := h.descend? "LateralAction" rfl ["LateralDistanceAction"]
  have hactivate := h.child? "ActivateControllerAction"
  have hcontrol := h.child? "ControllerAction"
  have hrouting := h.child? "RoutingAction"
  unfold privateAction
  generalize e.descend? ["LongitudinalAction", "SpeedAction"] = o,
    e'.descend? ["LongitudinalAction", "SpeedAction"] = o' at hspeed
  generalize e.descend? ["LateralAction", "LaneChangeAction"] = o,
    e'.descend? ["LateralAction", "LaneChangeAction"] = o' at hlane
  generalize e.descend? ["LateralAction", "LateralDistanceAction"] = o,
    e'.descend? ["LateralAction", "LateralDistanceAction"] = o' at hdistance
  generalize e.child? "ActivateControllerAction" = o, e'.child? "ActivateControllerAction" = o' at hactivate
  generalize e.child? "ControllerAction" = o, e'.child? "ControllerAction" = o' at hcontrol
  generalize e.child? "RoutingAction" = o, e'.child? "RoutingAction" = o' at hrouting
  cases hspeed with
  | some hspeed => exact .of_agree (.alike (fun _ e => speedAction_agrees hbare e name) hspeed)
  | none =>
  cases hlane with
  | some hlane => exact .of_agree (.map (.alike (fun _ e => laneChange_agrees hbare e name) hlane))
  | none =>
  cases hdistance with
  | some hdistance => exact .of_agree (.map (.alike (fun _ e => keepDistance_agrees hbare e name) hdistance))
  | none =>
  cases hactivate with
  | some hactivate => exact .of_agree (.alike (fun _ e => activation_agrees hbare e name) hactivate)
  | none =>
  cases hcontrol with
  | some hcontrol =>
    exact .of_agree (.alike (fun _ e => controllerAction_agrees hbare e name Spelling.bare_keepsNames) hcontrol)
  | none =>
  cases hrouting with
  | some hrouting => exact .bind (routePlan_inlined owner hrouting) fun _ => .pure rfl
  | none => exact .of_agree (.refuse rfl _ _ _ _)

theorem request?_inlined (behavior : Behavior) (h : InlinedAction sources.catalog ps e e') :
    AgreeAt sources map Eq ps Eq (request? owner behavior e).run (request? owner behavior e').run := by
  have hcommand := h.descend? "UserDefinedAction" rfl ["CustomCommandAction"]
  have haction := h.child? "PrivateAction"
  unfold request?
  generalize e.descend? ["UserDefinedAction", "CustomCommandAction"] = o,
    e'.descend? ["UserDefinedAction", "CustomCommandAction"] = o' at hcommand
  generalize e.child? "PrivateAction" = o, e'.child? "PrivateAction" = o' at haction
  refine .run_bind (.of_agree (.run_lift (attr_sameTag h.1 "name"))) fun name => ?_
  cases hcommand with
  | some hcommand =>
    refine .of_agree (.run_bind (.alike (fun _ e => ?_) hcommand) fun _ => .run_pure _)
    exact customCommand_agrees (Spelling.bare_faithful ps) e name (congrArg Text.trim (Element.text_respell_bare e))
  | none =>
  cases haction with
  | some haction =>
    exact .run_bind (.map (privateAction_inlined owner name haction)) fun _ => .of_agree (.run_pure _)
  | none => exact .of_agree (.run_lift (.refuse rfl _ _ _ _))

theorem action?_inlined (behavior : Behavior) (cue : Option Cue) (h : InlinedAction sources.catalog ps e e') :
    AgreeAt sources map Eq ps Eq (action? owner behavior cue e) (action? owner behavior cue e') := by
  refine .bind (request?_inlined owner behavior h) fun r => .of_agree ?_
  split
  · exact .bind (.record _ _) fun _ => .pure rfl
  · exact .pure rfl
  · exact .bind (attachPlan_agrees _ _) fun _ => .bind (feedRequest_agrees _ _ _) fun _ => .pure rfl

variable (overrides : KeyMap String String)

theorem eventActions_inlined (conditions : List Condition) (h : InlinedEvent sources.catalog ps e e') :
    AgreeAt sources map Eq ps Eq (eventActions owner conditions e) (eventActions owner conditions e') :=
  .bind (.of_agree .getCast) fun _ => .filterMap_rel (h.childrenNamed "Action") fun _ _ =>
    action?_inlined owner _ _

theorem draft_inlined (h : InlinedEvent sources.catalog ps e e') :
    AgreeAt sources map Eq ps Eq (draft overrides owner e) (draft overrides owner e') := by
  have hheading : Staging.Agree Eq ps Eq (eventHeading overrides owner e) (eventHeading overrides owner e') :=
    eventHeading_rel h.1 (h.child? "StartTrigger") overrides owner
  rw [draft_eq, draft_eq]
  refine .bind (.of_agree hheading) fun heading => ?_
  split
  · exact .pure rfl
  · refine .bind (eventActions_inlined owner _ h) fun actions => ?_
    split
    · exact .pure rfl
    · exact .pure rfl

theorem event_inlined (h : InlinedEvent sources.catalog ps e e') :
    AgreeAt sources map Eq ps Eq (event overrides owner e) (event overrides owner e') := by
  refine .bind (draft_inlined owner overrides h) fun kept => .of_agree ?_
  split
  · exact storeEvent_agrees _
  · exact .pure rfl

theorem maneuver_inlined (h : InlinedManeuver sources.catalog ps e e') :
    AgreeAt sources map Eq ps Eq (maneuver overrides owner e) (maneuver overrides owner e') :=
  .forM (h.childrenNamed "Event") fun _ _ => event_inlined owner overrides

theorem maneuver_sameChildren (h : e.SameChildren e') :
    Agree Eq ps Eq (maneuver overrides owner e) (maneuver overrides owner e') := by
  refine .forM (h.childrenNamed "Event") fun a b hab => .alike (fun _ e => ?_) hab
  exact event_agrees (Spelling.bare_faithful ps) e Spelling.bare_keepsNames overrides owner

end Events

section Groups

variable (overrides : KeyMap String String)

theorem exec_cataloguedManeuver? (sources : Sources) (map : RoadMap) (hs : s.parameters.declared = ps) (reference : Element) :
    ∃ j, exec sources map (cataloguedManeuver? reference) s =
      (sources.catalog.maneuver? (entryName ps reference), { s with journal := j }) := by
  obtain ⟨j, hname⟩ := exec_entryName sources map hs reference
  unfold cataloguedManeuver?
  rw [exec_bind, hname, exec_bind, exec_read]
  dsimp only
  cases sources.catalog.maneuver? (entryName ps reference) with
  | some maneuver => exact ⟨j, rfl⟩
  | none => exact ⟨_, rfl⟩

theorem exec_cataloguedManeuvers (sources : Sources) (map : RoadMap) (hs : s.parameters.declared = ps) (references : List Element) :
    ∃ j, exec sources map (filterMap cataloguedManeuver? references) s =
      (references.filterMap fun r => sources.catalog.maneuver? (entryName ps r), { s with journal := j }) := by
  induction references generalizing s with
  | nil => exact ⟨s.journal, rfl⟩
  | cons reference references ih =>
    obtain ⟨j, hfirst⟩ := exec_cataloguedManeuver? sources map hs reference
    obtain ⟨j', hrest⟩ := ih (s := { s with journal := j }) hs
    refine ⟨j', ?_⟩
    rw [filterMap, exec_bind, hfirst, exec_bind, hrest, exec_pure, List.filterMap_cons]
    cases sources.catalog.maneuver? (entryName ps reference) <;> rfl

theorem groupHeading_completed (h : CompletedGroup sources.catalog ps e e') :
    AgreeAt sources map Eq ps (fun a b => a.1 = b.1 ∧ b.2 = [] ∧
      a.2 = (e.childrenNamed "CatalogReference").filterMap fun r => sources.catalog.maneuver? (entryName ps r))
      (groupHeading e) (groupHeading e') := by
  have hactors : Option.Rel (Element.Alike .bare) (e.child? "Actors") (e'.child? "Actors") := by
    rw [Element.child?_eq_head?, Element.child?_eq_head?]
    exact rel_head? (h.others "Actors" (by decide) (by decide))
  refine .bind (.of_agree (actor_rel hactors)) fun actor s t hst => ?_
  obtain ⟨j, hlisted⟩ := exec_cataloguedManeuvers sources map hst.declared
    (e.childrenNamed "CatalogReference")
  unfold AgreeFrom
  rw [exec_bind, hlisted, h.referenceless]
  exact ⟨⟨rfl, rfl, rfl⟩, hst.journal_left j⟩

theorem group_completed (h : CompletedGroup sources.catalog ps e e') :
    AgreeAt sources map Eq ps Eq (group overrides e) (group overrides e') := by
  obtain ⟨own, added, hmaneuvers, hown, hadded⟩ := h.maneuvers
  rw [group_eq, group_eq]
  refine .bind_of (groupHeading_completed h) ?_
  rintro ⟨actor, listed⟩ ⟨-, -⟩ ⟨rfl, rfl, rfl⟩
  have hall : (e'.childrenNamed "Maneuver").forM (maneuver overrides actor) = (do
      own.forM (maneuver overrides actor)
      added.forM (maneuver overrides actor)) := by
    rw [hmaneuvers, List.forM_eq_forM, List.forM_append]
  dsimp only
  rw [hall, bind_assoc]
  refine .bind (.forM hown fun _ _ => maneuver_inlined actor overrides) fun _ => ?_
  have hend : added.forM (maneuver overrides actor) >>= (fun _ => ([] : List Element).forM (maneuver overrides actor)) =
      added.forM (maneuver overrides actor) := bind_pure _
  rw [hend]
  exact .of_agree (.forM hadded fun _ _ => maneuver_sameChildren actor overrides)

theorem group_inlined (h : InlinedGroup sources.catalog ps e e') :
    AgreeAt sources map Eq ps Eq (group overrides e) (group overrides e') := by
  rcases h with hcompleted | hwithin
  · exact group_completed overrides hcompleted
  · have hheading : Agree Eq ps Eq (groupHeading e) (groupHeading e') :=
      groupHeading_rel (hwithin.child? "Actors") (hwithin.childrenNamed "CatalogReference")
    rw [group_eq, group_eq]
    refine .bind (.of_agree hheading) fun heading => .bind ?_ fun _ => .of_agree ?_
    · exact .forM (hwithin.childrenNamed "Maneuver") fun _ _ => maneuver_inlined heading.1 overrides
    · refine .forM (List.forall₂_same.2 fun m _ => Eq.refl m) ?_
      rintro m _ rfl
      exact maneuver_agrees overrides _ m

theorem act_inlined (h : InlinedAct sources.catalog ps e e') :
    AgreeAt sources map Eq ps Eq (act overrides e) (act overrides e') :=
  .forM (h.childrenNamed "ManeuverGroup") fun _ _ => group_inlined overrides

theorem story_inlined (h : InlinedStory sources.catalog ps e e') :
    AgreeAt sources map Eq ps Eq (story e) (story e') := by
  rw [story_eq, story_eq, ← storyParameters_eq Spelling.bare_isLiteral (h.child? "ParameterDeclarations")]
  refine .bind (.of_agree (.map (attr_sameTag h.1 "name"))) fun _ => ?_
  exact .forM (h.childrenNamed "Act") fun _ _ => act_inlined (storyParameters e)

end Groups

end Scenography.Staging
