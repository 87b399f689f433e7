import Scenography.Proofs.Respelled.Entities
import Scenography.Proofs.Respelled.Network
import Scenography.Proofs.Respelled.Stories
import Scenography.Proofs.Readers

namespace Scenography.Staging

open Markup (Element Spelling)

variable {K : Aside → Aside → Prop} {ps : List Parameter} {b f g : Spelling} {e e' : Element} {heads weather : Prop}
  {root root' : Element} {sections sections' : Sections}

def outlooks (init : Element) : List (Option (KeyMap String String)) :=
  (((init.child? "Actions").map (·.childrenNamed "GlobalAction")).getD []).map fun e =>
    (e.child? "EnvironmentAction").bind outlook

section Sections

variable (hf : f.Faithful ps)

theorem enter_agrees (e : Entity) : Agree K ps Eq (enter e) (enter e) := by
  have hadd : Agree K ps Eq (modify fun s => { s with cast := s.cast.add e } : Staging Unit)
      (modify fun s => { s with cast := s.cast.add e }) := by
    apply Agree.modify
    rintro s _ ⟨journal, signals, weather, aside, declared⟩
    exact .mk journal signals weather aside declared
  unfold enter
  refine .bind .getCast fun c => .bind hadd fun _ => ?_
  split
  · exact .pure rfl
  · exact .warn _ _ _ _

include hf

theorem header_alike (h : Element.Alike f e e') : Agree K ps Eq (header e) (header e') := by
  refine .bind (attr_alike hf _ h) fun author => .bind (.modify ?_) fun _ =>
    .bind (attr_alike hf _ h) fun description => .modify ?_
  · rintro s _ ⟨journal, signals, weather, aside, declared⟩
    exact .mk journal signals weather aside declared
  · rintro s _ ⟨journal, signals, weather, aside, declared⟩
    exact .mk journal signals weather aside declared

theorem mapFile?_alike (h : Element.Alike f e e') : Agree K ps Eq (mapFile? e) (mapFile? e') :=
  .bind (attr_alike hf _ h) fun _ => .pure rfl

theorem roadNetwork_alike (h : Element.Alike f e e')
    (hheads : heads → (controllers e).map headsNamed = (controllers e').map headsNamed) :
    Agree (Aside.Near heads weather) ps Eq (roadNetwork e) (roadNetwork e') := by
  have hsignals : Agree (Aside.Near heads weather) ps Eq
      (do let signals ← signals e; modify fun s => { s with signals })
      (do let signals ← signals e'; modify fun s => { s with signals }) := by
    refine .bind_of (signals_alike hf h hheads) fun m m' hm => .modify fun s t hst => ?_
    exact hst.with_aside ⟨hm.1, hm.2, hst.aside.weather⟩
  have hlogic := h.child? "LogicFile"
  unfold roadNetwork
  generalize e.child? "LogicFile" = o, e'.child? "LogicFile" = o' at hlogic
  cases hlogic with
  | none => exact hsignals
  | some hlogic =>
    refine .bind (mapFile?_alike hf hlogic) fun mapFile => .bind (.modify ?_) fun _ => hsignals
    rintro s _ ⟨journal, signals, weather, aside, declared⟩
    exact .mk journal signals weather aside declared

theorem entities_alike (hk : f.KeepsNames) (h : Element.Alike f e e') :
    Agree K ps Eq (entities e) (entities e') := by
  refine .forM (h.childrenNamed _) fun object object' ho => ?_
  have hentity : Agree K ps Eq (entity? object) (entity? object') :=
    .alike (fun _ e => entity?_agrees hf e hk) ho
  refine .bind hentity fun entity => ?_
  split
  · exact enter_agrees _
  · exact .pure rfl

theorem globalAction_alike (h : Element.Alike f e e')
    (houtlook : weather → (e.child? "EnvironmentAction").bind outlook = (e'.child? "EnvironmentAction").bind outlook) :
    Agree (Aside.Near heads weather) ps Eq (globalAction e) (globalAction e') := by
  have hsignal := h.descend? ["InfrastructureAction", "TrafficSignalAction", "TrafficSignalControllerAction"]
  have henvironment := h.child? "EnvironmentAction"
  unfold globalAction
  generalize e.child? "EnvironmentAction" = w, e'.child? "EnvironmentAction" = w' at henvironment houtlook
  extract_lets jump jump'
  have hjump : Agree (Aside.Near heads weather) ps Eq (jump ()) (jump' ()) := by
    cases henvironment with
    | none => exact .pure rfl
    | some haction =>
      refine .bind_of (weather?_alike hf haction houtlook) fun w w' hw => ?_
      cases hw with
      | none => exact .pure rfl
      | some hw => exact .modify fun s t hst => hst.with_aside (hst.aside.insert hw)
  generalize e.descend? _ = o, e'.descend? _ = o' at hsignal
  cases hsignal with
  | none => exact hjump
  | some hsignal => exact .bind (signalAction_alike hf hsignal) fun _ => hjump

end Sections

section Init

variable (hf : f.Faithful ps) (owner : String) (e : Element)

theorem implicitRoutes_agrees : Agree K ps Eq implicitRoutes implicitRoutes := by
  refine .bind .getCast fun c => .forM (List.forall₂_same.2 fun _ _ => rfl) ?_
  rintro route _ rfl
  exact .map (attachRoute_agrees _ _)

include hf

theorem teleport_agrees : Agree K ps Eq (teleport owner (e.respell f)) (teleport owner e) := by
  unfold teleport
  rw [Element.child?_respell]
  cases e.child? "Position" with
  | none => exact .warn _ _ _ _
  | some position =>
    refine .bind (spot?_agrees hf _) fun spot => ?_
    cases spot with
    | none => exact .pure rfl
    | some spot =>
      refine .bind .getCast fun c => ?_
      dsimp only
      split
      · exact .warn _ _ _ _
      · refine .get_bind fun s t hst => ?_
        rw [hst.dialect]
        exact .modifyEntity _ _

theorem startSpeed_agrees : Agree K ps Eq (startSpeed owner (e.respell f)) (startSpeed owner e) :=
  .bind (value_agrees hf _ _) fun _ => .modifyEntity _ _

theorem startController_agrees : Agree K ps Eq (startController owner (e.respell f)) (startController owner e) := by
  unfold startController
  refine .bind (isTrue_agrees hf _ _) fun lateral => .bind (isTrue_agrees hf _ _) fun longitudinal =>
    .bind .getCast fun c => ?_
  split
  · exact .modifyEntity _ _
  · exact .warn _ _ _ _

theorem initAction_agrees : Agree K ps Eq (initAction owner (e.respell f)) (initAction owner e) := by
  unfold initAction
  rw [Element.child?_respell, Element.descend?_respell, Element.child?_respell]
  cases e.child? "TeleportAction" with
  | some action => exact teleport_agrees hf _ _
  | none =>
  cases e.descend? ["LongitudinalAction", "SpeedAction", "SpeedActionTarget", "AbsoluteTargetSpeed"] with
  | some target => exact startSpeed_agrees hf _ _
  | none =>
  cases e.child? "ActivateControllerAction" with
  | some action => exact startController_agrees hf _ _
  | none => exact .warn _ _ _ _

theorem initRouting_agrees : Agree K ps Eq (initRouting owner (e.respell f)) (initRouting owner e) := by
  unfold initRouting
  refine .bind (routePlan_agrees hf _ _) fun plan => ?_
  split
  · exact .map (attachRoute_agrees _ _)
  · exact .pure rfl

theorem initPrivate_agrees : Agree K ps Eq (initPrivate (e.respell f)) (initPrivate e) := by
  unfold initPrivate
  refine .bind (attr_agrees hf _ _) fun owner => .bind .getCast fun c => ?_
  split
  · exact .warn _ _ _ _
  · have hother : ((e.respell f).childrenNamed "PrivateAction").filter (!·.hasChild "RoutingAction") =
        ((e.childrenNamed "PrivateAction").filter (!·.hasChild "RoutingAction")).map (·.respell f) := by
      simp [List.filter_map, Function.comp_def]
    have hrouting : ((e.respell f).childrenNamed "PrivateAction").filterMap (·.child? "RoutingAction") =
        ((e.childrenNamed "PrivateAction").filterMap (·.child? "RoutingAction")).map (·.respell f) := by
      simp [List.filterMap_map, List.map_filterMap]
    dsimp only
    rw [hother, hrouting]
    exact .bind (.forM_map fun e => initAction_agrees hf owner e) fun _ =>
      .forM_map fun e => initRouting_agrees hf owner e

end Init

theorem init_alike (hf : f.Faithful ps) (h : Element.Alike f e e')
    (houtlooks : weather → outlooks e = outlooks e') :
    Agree (Aside.Near heads weather) ps Eq (init e) (init e') := by
  have hactions := h.child? "Actions"
  unfold init
  unfold outlooks at houtlooks
  generalize e.child? "Actions" = o, e'.child? "Actions" = o' at hactions houtlooks
  cases hactions with
  | none => exact .pure rfl
  | some hactions =>
    have hglobal := forall₂_and_of_map (hactions.childrenNamed "GlobalAction") houtlooks
    refine .bind (.forM hglobal fun a b hab => globalAction_alike hf hab.1 hab.2) fun _ =>
      .bind (.forM (hactions.childrenNamed "Private") fun a b hab => ?_) fun _ => implicitRoutes_agrees
    apply Agree.alike _ hab
    exact fun _ e => initPrivate_agrees hf e

structure OpeningsAlike (b f g : Spelling) (root root' : Element) (sections sections' : Sections) : Prop where
  header : Element.Alike b sections.header sections'.header
  parameters : Option.Rel (Element.Alike b) (root.child? "ParameterDeclarations")
    (root'.child? "ParameterDeclarations")
  network : Option.Rel (Element.Alike f) (root.child? "RoadNetwork") (root'.child? "RoadNetwork")
  entities : Element.Alike g sections.entities sections'.entities
  init : Element.Alike f sections.init sections'.init

theorem declareAll_eq_of_literal (hb : b.IsLiteral) (h : Element.Alike b e e') (p : Parameters) :
    p.declareAll e = p.declareAll e' := by
  apply Element.eq_of_alike _ h
  intro e
  unfold Parameters.declareAll
  rw [Element.childrenNamed_respell, List.foldl_map]
  congr 1
  funext p e
  simp [Parameters.declareElement, Element.filledAttr?, hb _]

theorem header_keeps_parameters (e : Element) : Keeps (fun s => s.parameters = {}) (header e) := by
  have hread (name : String) : Keeps (fun s => s.parameters = {}) (attr e name) :=
    (attr_reads e name).keeps fun _ _ h => h
  exact .bind (hread _) fun _ => .bind (.modify fun _ h => h) fun _ => .bind (hread _) fun _ => .modify fun _ h => h

def parametersOf (root : Element) : List Parameter :=
  (Parameters.ofDeclarations (root.child? "ParameterDeclarations")).declared

def headsOf (root : Element) : Option (List (List String)) :=
  (root.child? "RoadNetwork").map fun e => (controllers e).map headsNamed

def preamble (root : Element) (s : Sections) : Staging Unit := do
  header s.header
  match root.child? "ParameterDeclarations" with
  | some e => modify fun s => { s with parameters := s.parameters.declareAll e }
  | none => pure ()
  match root.child? "RoadNetwork" with
  | some e => roadNetwork e
  | none => pure ()
  entities s.entities

theorem opening_eq (root : Element) (s : Sections) : opening root s = (do
    preamble root s
    init s.init
    modify fun s => { s with parameters := s.parameters.lock }) := by
  unfold opening preamble
  cases root.child? "ParameterDeclarations" <;> cases root.child? "RoadNetwork" <;> simp only [bind_assoc]

theorem lock_agrees : Agree K ps Eq (modify fun s => { s with parameters := s.parameters.lock } : Staging Unit)
    (modify fun s => { s with parameters := s.parameters.lock }) := by
  apply Agree.modify
  rintro s _ ⟨journal, signals, weather, aside, declared⟩
  exact .mk (s := { s with parameters := s.parameters.lock }) journal signals weather aside declared

theorem preamble_alike (hb : b.IsLiteral) (hf : f.Faithful (parametersOf root)) (hg : g.Faithful (parametersOf root))
    (hk : g.KeepsNames) (hheaders : Element.Alike b sections.header sections'.header)
    (hparameters : Option.Rel (Element.Alike b) (root.child? "ParameterDeclarations")
      (root'.child? "ParameterDeclarations"))
    (hroads : Option.Rel (Element.Alike f) (root.child? "RoadNetwork") (root'.child? "RoadNetwork"))
    (hentities : Element.Alike g sections.entities sections'.entities)
    (hheads : heads → headsOf root = headsOf root') (sources : Sources) (map : RoadMap) :
    (exec sources map (preamble root sections) {}).2.Agree (Aside.Near heads weather) (parametersOf root)
      (exec sources map (preamble root' sections') {}).2 := by
  have hstart : Stage.Agree (Aside.Near heads weather) [] {} {} :=
    .mk {} ∅ ∅ ⟨rfl, fun _ => rfl, fun _ => rfl⟩ rfl
  have hheader := (header_alike (hb.faithful []) hheaders sources map {} {} hstart).2
  have hnone : (exec sources map (header sections.header) {}).2.parameters = {} :=
    header_keeps_parameters _ sources map {} rfl
  unfold preamble
  rw [exec_bind, exec_bind]
  generalize (exec sources map (header sections.header) {}).2 = s at hheader hnone
  generalize (exec sources map (header sections'.header) {}).2 = t at hheader
  extract_lets rest network rest' network'
  have hrest : Agree (Aside.Near heads weather) (parametersOf root) Eq (rest ()) (rest' ()) :=
    entities_alike hg hk hentities
  have hnetwork : Agree (Aside.Near heads weather) (parametersOf root) Eq (network ()) (network' ()) := by
    unfold headsOf at hheads
    dsimp only [network, network']
    generalize root.child? "RoadNetwork" = o, root'.child? "RoadNetwork" = o' at hroads hheads
    cases hroads with
    | none => exact hrest
    | some hroad => exact .bind (roadNetwork_alike hf hroad fun hh => Option.some.inj (hheads hh)) fun _ => hrest
  obtain ⟨journal, signals, weather, aside, -⟩ := hheader
  unfold parametersOf at hnetwork ⊢
  generalize root.child? "ParameterDeclarations" = o, root'.child? "ParameterDeclarations" = o' at hparameters hnetwork
  cases hparameters with
  | none =>
    have hdeclared : s.parameters.declared = (Parameters.ofDeclarations none).declared := by rw [hnone]; rfl
    exact (hnetwork sources map _ _ (.mk journal signals weather aside hdeclared)).2
  | @some e e' he =>
    rw [exec_bind, exec_bind, exec_modify, exec_modify]
    dsimp only
    rw [hnone, ← declareAll_eq_of_literal hb he]
    exact (hnetwork sources map _ _
      (.mk (s := { s with parameters := Parameters.declareAll {} e }) journal signals weather aside rfl)).2

theorem opening_alike (hb : b.IsLiteral) (hf : f.Faithful (parametersOf root)) (hg : g.Faithful (parametersOf root))
    (hk : g.KeepsNames) (h : OpeningsAlike b f g root root' sections sections')
    (hheads : heads → headsOf root = headsOf root')
    (houtlooks : weather → outlooks sections.init = outlooks sections'.init) (sources : Sources) (map : RoadMap) :
    (exec sources map (opening root sections) {}).2.Agree (Aside.Near heads weather) (parametersOf root)
      (exec sources map (opening root' sections') {}).2 := by
  have hrest : Agree (Aside.Near heads weather) (parametersOf root) Eq
      (do init sections.init; modify fun s => { s with parameters := s.parameters.lock })
      (do init sections'.init; modify fun s => { s with parameters := s.parameters.lock }) :=
    .bind (init_alike hf h.init houtlooks) fun _ => lock_agrees
  rw [opening_eq, opening_eq, exec_bind _ _ _ (preamble root sections), exec_bind _ _ _ (preamble root' sections')]
  exact (hrest sources map _ _
    (preamble_alike hb hf hg hk h.header h.parameters h.network h.entities hheads sources map)).2

end Scenography.Staging
