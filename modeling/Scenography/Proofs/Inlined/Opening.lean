import Scenography.Proofs.Inlined.Stories

namespace Scenography.Staging

open Markup (Element Spelling)

variable {sources : Sources} {map : RoadMap} {ps : List Parameter} {e e' : Element}

section Weather

theorem weatherOf_sameChildren (h : e.SameChildren e') : Agree Eq ps Eq (weatherOf e) (weatherOf e') :=
  (weatherOf_alike (Spelling.bare_faithful ps) h fun _ : True => declared_eq Spelling.bare_isLiteral h).imp fun _ _ hw => hw trivial

theorem weather?_inlined (h : InlinedEnvironment sources.catalog ps e e') :
    AgreeAt sources map Eq ps Eq (weather? e) (weather? e') := by
  rcases h with halike | hinlined
  · have hweather : Agree Eq ps (Option.Rel fun w w' => True → w = w') (weather? e) (weather? e') :=
      weather?_alike (Spelling.bare_faithful ps) halike fun _ => outlook_eq Spelling.bare_isLiteral halike
    refine .of_agree (hweather.imp fun o o' ho => ?_)
    cases ho with
    | none => rfl
    | some hw => rw [hw trivial]
  · obtain ⟨hnone, reference, fragment, stood, hreference, hfind, hstood, hsame⟩ := hinlined.exists
    have henvironment : AgreeAt sources map Eq ps (Option.Rel Element.SameChildren) (environment? e) (environment? e') := by
      intro s t hst
      obtain ⟨j, hname⟩ := exec_entryName sources map hst.declared reference
      have hread : exec sources map (environment? e) s = (some fragment, { s with journal := j }) := by
        unfold environment?
        rw [hnone, hreference]
        dsimp only
        rw [exec_bind, hname, exec_bind, exec_read]
        dsimp only
        rw [hfind, exec_pure]
      unfold AgreeFrom
      rw [hread, environment?, hstood]
      exact ⟨.some hsame, hst.journal_left j⟩
    exact .bind_of henvironment fun o o' ho => .of_agree (.optionMapM_rel ho fun _ _ => weatherOf_sameChildren)

theorem signalAction_alike_eq (h : Element.Alike .bare e e') :
    Agree Eq ps Eq (signalAction e) (signalAction e') := by
  have hnear : Aside.Near True True = Eq := by
    funext a b
    exact propext ⟨fun h => Prod.ext (h.heads trivial) (h.weather trivial),
      fun h => ⟨by rw [h], fun _ => by rw [h], fun _ => by rw [h]⟩⟩
  exact hnear ▸ signalAction_alike (Spelling.bare_faithful ps) h

theorem globalAction_inlined (h : InlinedGlobalAction sources.catalog ps e e') :
    AgreeAt sources map Eq ps Eq (globalAction e) (globalAction e') := by
  have hsignal := h.descend? "InfrastructureAction" rfl
    ["TrafficSignalAction", "TrafficSignalControllerAction"]
  have henvironment := h.child? "EnvironmentAction"
  unfold globalAction
  generalize e.child? "EnvironmentAction" = w, e'.child? "EnvironmentAction" = w' at henvironment
  extract_lets jump jump'
  have hjump : AgreeAt sources map Eq ps Eq (jump ()) (jump' ()) := by
    cases henvironment with
    | none => exact .pure rfl
    | some haction =>
      refine .bind (weather?_inlined haction) fun w => .of_agree ?_
      split
      · apply Agree.modify
        rintro s _ ⟨journal, signals, weather, haside, hdeclared⟩
        obtain ⟨rfl, rfl⟩ := Prod.mk.inj haside
        exact .mk (s := { s with weather := s.weather.insert _ _ }) journal _ _ rfl hdeclared
      · exact .pure rfl
  generalize e.descend? _ = o, e'.descend? _ = o' at hsignal
  cases hsignal with
  | none => exact hjump
  | some hsignal => exact .bind (.of_agree (signalAction_alike_eq hsignal)) fun _ => hjump

end Weather

section Init

variable (owner : String)

theorem initAction_inlined (h : InlinedPrivateAction sources.catalog ps e e') :
    Agree Eq ps Eq (initAction owner e) (initAction owner e') := by
  have hbare := Spelling.bare_faithful ps
  have hteleport := h.child? "TeleportAction"
  have hspeed := h.descend? "LongitudinalAction" rfl ["SpeedAction", "SpeedActionTarget", "AbsoluteTargetSpeed"]
  have hactivate := h.child? "ActivateControllerAction"
  unfold initAction
  generalize e.child? "TeleportAction" = o, e'.child? "TeleportAction" = o' at hteleport
  generalize e.descend? ["LongitudinalAction", "SpeedAction", "SpeedActionTarget", "AbsoluteTargetSpeed"] = o,
    e'.descend? ["LongitudinalAction", "SpeedAction", "SpeedActionTarget", "AbsoluteTargetSpeed"] = o' at hspeed
  generalize e.child? "ActivateControllerAction" = o, e'.child? "ActivateControllerAction" = o' at hactivate
  cases hteleport with
  | some hteleport => exact .alike (fun _ e => teleport_agrees hbare owner e) hteleport
  | none =>
  cases hspeed with
  | some hspeed => exact .alike (fun _ e => startSpeed_agrees hbare owner e) hspeed
  | none =>
  cases hactivate with
  | some hactivate => exact .alike (fun _ e => startController_agrees hbare owner e) hactivate
  | none => exact .warn _ _ _ _

theorem initRouting_inlined (h : InlinedRouting sources.catalog ps e e') :
    AgreeAt sources map Eq ps Eq (initRouting owner e) (initRouting owner e') := by
  refine .bind (routePlan_inlined owner h) fun plan => .of_agree ?_
  split
  · exact .map (attachRoute_agrees _ _)
  · exact .pure rfl

theorem initPrivate_inlined (h : InlinedPrivate sources.catalog ps e e') :
    AgreeAt sources map Eq ps Eq (initPrivate e) (initPrivate e') := by
  have hactions : List.Forall₂ (InlinedPrivateAction sources.catalog ps) (e.childrenNamed "PrivateAction")
      (e'.childrenNamed "PrivateAction") := h.childrenNamed "PrivateAction"
  have hother : List.Forall₂ (InlinedPrivateAction sources.catalog ps)
      ((e.childrenNamed "PrivateAction").filter (!·.hasChild "RoutingAction"))
      ((e'.childrenNamed "PrivateAction").filter (!·.hasChild "RoutingAction")) := by
    refine List.rel_filter ?_ hactions
    intro a b hab
    dsimp only
    rw [hab.hasChild_eq "RoutingAction"]
  have hrouting : List.Forall₂ (InlinedRouting sources.catalog ps)
      ((e.childrenNamed "PrivateAction").filterMap (·.child? "RoutingAction"))
      ((e'.childrenNamed "PrivateAction").filterMap (·.child? "RoutingAction")) :=
    List.rel_filterMap (fun a b hab => hab.child? "RoutingAction") hactions
  refine .bind (.of_agree (attr_sameTag h.1 "entityRef")) fun owner => .bind (.of_agree .getCast) fun c => ?_
  split
  · exact .of_agree (.warn _ _ _ _)
  · exact .bind (.of_agree (.forM hother fun _ _ => initAction_inlined owner)) fun _ =>
      .forM hrouting fun _ _ => initRouting_inlined owner

theorem init_inlined (h : InlinedInit sources.catalog ps e e') :
    AgreeAt sources map Eq ps Eq (init e) (init e') := by
  have hactions := h.child? "Actions"
  unfold init
  generalize e.child? "Actions" = o, e'.child? "Actions" = o' at hactions
  cases hactions with
  | none => exact .pure rfl
  | some hactions =>
    exact .bind (.forM (hactions.childrenNamed "GlobalAction") fun _ _ => globalAction_inlined) fun _ =>
      .bind (.forM (hactions.childrenNamed "Private") fun _ _ => initPrivate_inlined) fun _ =>
        .of_agree implicitRoutes_agrees

end Init

end Scenography.Staging
