import Scenography.Proofs.Respelled.Document
/-!
A value may stand in place of the parameter that has it. In what is told of entities, of what they do first
and of acts this changes nothing. In the road network and in global actions it changes nothing but heads of
signals and what an environment declares for itself, which are taken as written.
-/

namespace Scenography

open Markup (Element Spelling Leave)

/-- Below the parts of a document that start with one of these paths, values may stand for the parameters that
have them, but for the attributes kept. -/
def spelledOut (parts : List (List String)) (kept : (element key : String) → Bool) (ps : List Parameter) : Leave :=
  fun path element key raw value =>
    (∃ part ∈ parts, part <+: path) ∧ kept element key = false ∧ Parameters.Names ps raw value

def actingParts : List (List String) :=
  [["Entities"], ["Storyboard", "Init", "Actions", "Private"], ["Storyboard", "Story", "Act"]]

def settingParts : List (List String) :=
  [["RoadNetwork"], ["Storyboard", "Init", "Actions", "GlobalAction"]]

def isPropertyName (element key : String) : Bool :=
  element = "Property" && key = "name"

section Spelling

variable {parts : List (List String)} {kept : (element key : String) → Bool} {ps : List Parameter}
  {path : List String} {e e' : Element}

theorem Markup.Element.Varies.alike_plain (h : e.Varies (spelledOut parts kept ps) path e') :
    Element.Alike (.plain ps kept) e e' := by
  refine h.respell_eq (fun _ _ => rfl) ?_
  rintro path' element key raw value - ⟨-, hkept, hnames⟩
  simp only [Spelling.plain, hkept, Bool.false_eq_true, if_false]
  exact hnames.plain_eq

theorem Markup.Element.Varies.alike_bare (h : e.Varies (spelledOut parts kept ps) path e')
    (hpath : ∀ part ∈ parts, ¬part <+: path ∧ ¬path <+: part) : Element.Alike .bare e e' := by
  refine h.respell_eq (fun _ _ => rfl) ?_
  rintro path' element key raw value hlong ⟨⟨part, hmem, hpart⟩, -, -⟩
  rcases List.prefix_or_prefix_of_prefix hpart hlong with hshort | hshort
  · exact ((hpath part hmem).1 hshort).elim
  · exact ((hpath part hmem).2 hshort).elim

theorem plain_keepsNames (ps : List Parameter) : (Spelling.plain ps isPropertyName).KeepsNames :=
  fun _ => rfl

end Spelling

namespace Staging

section Raw

variable {f : Spelling} (hf : f.IsLiteral) {e e' : Element}

include hf

theorem storyParameters_eq (h : Option.Rel (Element.Alike f) (e.child? "ParameterDeclarations")
    (e'.child? "ParameterDeclarations")) : storyParameters e = storyParameters e' := by
  unfold storyParameters
  generalize e.child? "ParameterDeclarations" = o, e'.child? "ParameterDeclarations" = o' at h
  cases h with
  | none => rfl
  | some hdeclarations =>
    apply Element.eq_of_alike _ hdeclarations
    intro d
    simp [List.filterMap_map, Element.filledAttr?, hf _]

theorem headsNamed_eq (h : Element.Alike f e e') : headsNamed e = headsNamed e' := by
  apply Element.eq_of_alike _ h
  intro e
  have hheads (phase : Element) : heads (phase.respell f) = heads phase := by
    simp [heads, List.filterMap_map, hf _]
  simp [headsNamed, List.head?_map, Function.comp_def, hheads]

theorem controllers_headsNamed_eq (h : Element.Alike f e e') :
    (controllers e).map headsNamed = (controllers e').map headsNamed := by
  have hsignals := h.child? "TrafficSignals"
  unfold controllers
  generalize e.child? "TrafficSignals" = o, e'.child? "TrafficSignals" = o' at hsignals
  cases hsignals with
  | none => rfl
  | some hsignals =>
    rw [← List.forall₂_eq_eq_eq, List.forall₂_map_left_iff, List.forall₂_map_right_iff]
    exact (hsignals.childrenNamed _).imp fun _ _ => headsNamed_eq hf

theorem headsOf_eq {root root' : Element}
    (h : Option.Rel (Element.Alike f) (root.child? "RoadNetwork") (root'.child? "RoadNetwork")) :
    headsOf root = headsOf root' := by
  unfold headsOf
  generalize root.child? "RoadNetwork" = o, root'.child? "RoadNetwork" = o' at h
  cases h with
  | none => rfl
  | some hnetwork => exact congrArg some (controllers_headsNamed_eq hf hnetwork)

theorem declared_eq (h : Element.Alike f e e') : declared e = declared e' := by
  apply Element.eq_of_alike _ h
  intro environment
  unfold declared
  rw [Element.child?_respell]
  cases environment.child? "ParameterDeclarations" <;> simp [List.filterMap_map, hf _]

theorem outlook_eq (h : Element.Alike f e e') : outlook e = outlook e' := by
  have henvironment := h.child? "Environment"
  unfold outlook
  generalize e.child? "Environment" = o, e'.child? "Environment" = o' at henvironment
  cases henvironment with
  | none => rfl
  | some henvironment => exact congrArg some (declared_eq hf henvironment)

theorem outlooks_eq {init init' : Element}
    (h : Option.Rel (fun e e' : Element =>
      List.Forall₂ (Element.Alike f) (e.childrenNamed "GlobalAction") (e'.childrenNamed "GlobalAction"))
      (init.child? "Actions") (init'.child? "Actions")) : outlooks init = outlooks init' := by
  unfold outlooks
  generalize init.child? "Actions" = o, init'.child? "Actions" = o' at h
  cases h with
  | none => rfl
  | some hglobal =>
    rw [← List.forall₂_eq_eq_eq, List.forall₂_map_left_iff, List.forall₂_map_right_iff]
    refine hglobal.imp fun e e' he => ?_
    have haction := he.child? "EnvironmentAction"
    generalize e.child? "EnvironmentAction" = o, e'.child? "EnvironmentAction" = o' at haction
    cases haction with
    | none => rfl
    | some haction => exact outlook_eq hf haction

end Raw

end Staging

open Staging

def outlooksOf (root : Element) : Option (List (Option (KeyMap String String))) :=
  (root.descend? ["Storyboard", "Init"]).map outlooks

theorem outlooksOf_eq_some {root : Element} {sections : Sections} (h : Sections.ofRoot root = .ok sections) :
    outlooksOf root = some (outlooks sections.init) := by
  obtain ⟨-, hstoryboard, hinit, -, -⟩ := Sections.ofRoot_eq_ok_iff.1 h
  simp [outlooksOf, Element.descend?, hstoryboard, hinit]

section Documents

variable {sources : Sources} {map : RoadMap} {root root' : Element} {staged : Staged} {sections : Sections}
  {parts : List (List String)} {kept : (element key : String) → Bool} {ps : List Parameter}

theorem Sections.ofRoot_varies {may : Leave} (h : root.Varies may [] root')
    (hs : Sections.ofRoot root = .ok sections) :
    ∃ sections', Sections.ofRoot root' = .ok sections' ∧
      sections.header.Varies may ["FileHeader"] sections'.header ∧
      sections.entities.Varies may ["Entities"] sections'.entities ∧
      sections.storyboard.Varies may ["Storyboard"] sections'.storyboard ∧
      sections.init.Varies may ["Storyboard", "Init"] sections'.init := by
  obtain ⟨hname, hstoryboard, hinit, hheader, hentities⟩ := Sections.ofRoot_eq_ok_iff.1 hs
  obtain ⟨storyboard', hstoryboard', hvstoryboard⟩ := exists_of_optionRel (h.child? _) hstoryboard
  obtain ⟨init', hinit', hvinit⟩ := exists_of_optionRel (hvstoryboard.child? _) hinit
  obtain ⟨header', hheader', hvheader⟩ := exists_of_optionRel (h.child? _) hheader
  obtain ⟨entities', hentities', hventities⟩ := exists_of_optionRel (h.child? _) hentities
  refine ⟨⟨header', entities', storyboard', init'⟩, ?_, hvheader, hventities, hvstoryboard, hvinit⟩
  exact Sections.ofRoot_eq_ok_iff.2 ⟨h.name_eq ▸ hname, hstoryboard', hinit', hheader', hentities'⟩

/-- Values may stand for parameters in all that is told of entities, and the scene is the same. -/
theorem stage_spelledOut_acting (h : (stage sources root).run map = .ok staged)
    (hvaries : root.Varies (spelledOut actingParts isPropertyName (parametersOf root)) [] root') :
    ∃ staged', (stage sources root').run map = .ok staged' ∧ staged'.scene = staged.scene := by
  obtain ⟨sections, hs, -⟩ := run_stage h
  obtain ⟨sections', hs', hheader, hentities, hstoryboard, hinit⟩ := Sections.ofRoot_varies hvaries hs
  have hnetwork : Option.Rel (Element.Alike .bare) (root.child? "RoadNetwork") (root'.child? "RoadNetwork") :=
    optionRel_imp (hvaries.child? _) fun _ _ he => he.alike_bare (by decide)
  have hglobal : Option.Rel (fun e e' : Element =>
      List.Forall₂ (Element.Alike .bare) (e.childrenNamed "GlobalAction") (e'.childrenNamed "GlobalAction"))
      (sections.init.child? "Actions") (sections'.init.child? "Actions") :=
    optionRel_imp (hinit.child? _) fun _ _ he => (he.childrenNamed _).imp fun _ _ he => he.alike_bare (by decide)
  have hstories := (hstoryboard.childrenNamed "Story").imp fun e e' he => And.intro he.alike_plain <|
    storyParameters_eq Spelling.bare_isLiteral (optionRel_imp (he.child? _) fun _ _ he => he.alike_bare (by decide))
  have halike : DocumentsAlike (.plain (parametersOf root) isPropertyName)
      (.plain (parametersOf root) isPropertyName) root root' sections sections' := {
    header := hheader.alike_bare (by decide)
    parameters := optionRel_imp (hvaries.child? _) fun _ _ he => he.alike_bare (by decide)
    network := optionRel_imp (hvaries.child? _) fun _ _ he => he.alike_plain
    entities := hentities.alike_plain
    init := hinit.alike_plain
    stories := hstories }
  have hfaithful := Spelling.plain_faithful (parametersOf root) isPropertyName
  have hagree : (finalStage sources map root).Agree (Aside.Near True True) (parametersOf root)
      (finalStage sources map root') :=
    finalStage_alike hfaithful hfaithful (plain_keepsNames _) hs hs' halike
      (fun _ => headsOf_eq Spelling.bare_isLiteral hnetwork) fun _ => outlooks_eq Spelling.bare_isLiteral hglobal
  exact run_stage_of_agree_eq h hs' (hagree.mono fun _ _ => Aside.Near.eq)

/-- Values may stand for parameters in the road network and in global actions too, and the scene is the same
but for heads of signals and for the weather; and the heads are the same if the same are named as written, the
weather if environments declare the same for themselves as written. -/
theorem stage_spelledOut_setting (h : (stage sources root).run map = .ok staged)
    (hvaries : root.Varies (spelledOut settingParts (fun _ _ => false) (parametersOf root)) [] root') :
    ∃ staged', (stage sources root').run map = .ok staged' ∧
      staged'.scene = { staged.scene with signals := staged'.scene.signals, weather := staged'.scene.weather } ∧
      staged'.scene.signals.map SignalPlan.headless = staged.scene.signals.map SignalPlan.headless ∧
      (headsOf root' = headsOf root → staged'.scene.signals = staged.scene.signals) ∧
      (outlooksOf root' = outlooksOf root → staged'.scene.weather = staged.scene.weather) := by
  obtain ⟨sections, hs, -⟩ := run_stage h
  obtain ⟨sections', hs', hheader, hentities, hstoryboard, hinit⟩ := Sections.ofRoot_varies hvaries hs
  have hstories := (hstoryboard.childrenNamed "Story").imp fun e e' he => And.intro (he.alike_bare (by decide)) <|
    storyParameters_eq Spelling.bare_isLiteral (optionRel_imp (he.child? _) fun _ _ he => he.alike_bare (by decide))
  have halike : DocumentsAlike (.plain (parametersOf root) fun _ _ => false) .bare root root' sections sections' := {
    header := hheader.alike_bare (by decide)
    parameters := optionRel_imp (hvaries.child? _) fun _ _ he => he.alike_bare (by decide)
    network := optionRel_imp (hvaries.child? _) fun _ _ he => he.alike_plain
    entities := hentities.alike_bare (by decide)
    init := hinit.alike_plain
    stories := hstories }
  have hagree : (finalStage sources map root).Agree
      (Aside.Near (headsOf root = headsOf root') (outlooks sections.init = outlooks sections'.init))
      (parametersOf root) (finalStage sources map root') :=
    finalStage_alike (Spelling.plain_faithful _ _) (Spelling.bare_faithful _) Spelling.bare_keepsNames hs hs' halike
      id id
  obtain ⟨staged', hstaged', hscene, hnear⟩ := run_stage_of_agree h hs' hagree
  refine ⟨staged', hstaged', hscene, hnear.plans.symm, fun hheads => (hnear.heads hheads.symm).symm, fun ho => ?_⟩
  rw [outlooksOf_eq_some hs, outlooksOf_eq_some hs'] at ho
  exact (hnear.weather (Option.some.inj ho).symm).symm

end Documents

section Samples

theorem Markup.Element.Varies.of {may : Leave} {path : List String} {name : String}
    {attributes attributes' : List (String × String)} {children children' : List Element}
    (hattributes : List.Forall₂ (fun p q => p.1 = q.1 ∧ (p.2 = q.2 ∨ may path name p.1 p.2 q.2))
      (KeyMap.ofList attributes).entries (KeyMap.ofList attributes').entries)
    (hchildren : List.Forall₂ (fun e e' => e.Varies may (path ++ [e.name]) e') children children') :
    (Element.of name attributes children).Varies may path (Element.of name attributes' children') := by
  refine .mk hattributes ?_
  induction hchildren with
  | nil => exact .nil
  | cons h _ ih => exact .element h ih

theorem Markup.Element.Varies.of_children {may : Leave} {path : List String} {name : String}
    {attributes : List (String × String)} {children children' : List Element}
    (hchildren : List.Forall₂ (fun e e' => e.Varies may (path ++ [e.name]) e') children children') :
    (Element.of name attributes children).Varies may path (Element.of name attributes children') :=
  .of (List.forall₂_same.2 fun _ _ => ⟨rfl, .inl rfl⟩) hchildren

namespace Sample

def declaration (name value : String) : Element :=
  .of "ParameterDeclaration" [("name", name), ("value", value)] []

def parametric (type who : String) : Element :=
  .of "OpenSCENARIO" [] [
    .of "FileHeader" [] [],
    .of "ParameterDeclarations" [] [declaration "Type" "Sedan", declaration "Who" "Car"],
    .of "Entities" [] [.of "ScenarioObject" [("name", "Car")] [.of "Vehicle" [("name", type)] []]],
    .of "Storyboard" [] [
      .of "Init" [] [],
      .of "Story" [] [.of "Act" [] [group who [event [timeTest "1"] [speedAction "go" "step" "0" "9"]]]]]]

theorem parametric_names : Parameters.Names (parametersOf (parametric "$Type" "$Who")) "$Type" "Sedan" ∧
    Parameters.Names (parametersOf (parametric "$Type" "$Who")) "$Who" "Car" := by
  constructor
  · exact ⟨"Type", ⟨"Type", .string, "Sedan"⟩, by decide, by decide, rfl, by decide⟩
  · exact ⟨"Who", ⟨"Who", .string, "Car"⟩, by decide, by decide, rfl, by decide⟩

theorem parametric_varies : (parametric "$Type" "$Who").Varies
    (spelledOut actingParts isPropertyName (parametersOf (parametric "$Type" "$Who"))) []
    (parametric "Sedan" "Car") := by
  obtain ⟨htype, hwho⟩ := parametric_names
  generalize parametersOf (parametric "$Type" "$Who") = ps at htype hwho
  refine .of_children (.cons (.refl _ _) (.cons (.refl _ _) (.cons ?entities (.cons ?storyboard .nil))))
  case entities =>
    refine .of_children (.cons (.of_children (.cons (.of ?_ .nil) .nil)) .nil)
    exact .cons ⟨rfl, .inr ⟨by decide, rfl, htype⟩⟩ .nil
  case storyboard =>
    -- story, act, group and its actors on the way
    refine .of_children (.cons (.refl _ _) (.cons (.of_children (.cons (.of_children (.cons (.of_children
      (.cons (.of_children (.cons (.of ?_ .nil) .nil)) (.cons (.refl _ _) .nil))) .nil)) .nil)) .nil))
    exact .cons ⟨rfl, .inr ⟨by decide, rfl, hwho⟩⟩ .nil

theorem stage_parametric : (stage .bare (parametric "$Type" "$Who")).run .blank =
    .ok ⟨(finalStage .bare .blank (parametric "$Type" "$Who")).scene.withReferences,
      (finalStage .bare .blank (parametric "$Type" "$Who")).journal⟩ :=
  run_stage_of_isOk (by decide)

end Sample

theorem sample_spelledOut : ∃ staged staged', (stage .bare (Sample.parametric "$Type" "$Who")).run .blank = .ok staged ∧
    (stage .bare (Sample.parametric "Sedan" "Car")).run .blank = .ok staged' ∧ staged'.scene = staged.scene ∧
    (staged.scene.events.get? 0).map (·.owner) = some "Car" := by
  obtain ⟨staged', hstaged', hscene⟩ := stage_spelledOut_acting Sample.stage_parametric Sample.parametric_varies
  exact ⟨_, staged', Sample.stage_parametric, hstaged', hscene, by decide⟩

namespace Sample

def signalled (controller head : String) : Element :=
  .of "OpenSCENARIO" [] [
    .of "FileHeader" [] [],
    .of "ParameterDeclarations" [] [declaration "Name" "main", declaration "Head" "north"],
    .of "RoadNetwork" [] [.of "TrafficSignals" [] [.of "TrafficSignalController" [("name", controller)] [
      .of "Phase" [("name", "go")] [.of "TrafficSignalState" [("trafficSignalId", head)] []]]]],
    .of "Entities" [] [],
    .of "Storyboard" [] [.of "Init" [] []]]

theorem signalled_varies {controller head controller' head' : String} {ps : List Parameter}
    (hcontroller : controller = controller' ∨ Parameters.Names ps controller controller')
    (hhead : head = head' ∨ Parameters.Names ps head head') :
    (signalled controller head).Varies (spelledOut settingParts (fun _ _ => false) ps) []
      (signalled controller' head') := by
  refine .of_children (.cons (.refl _ _) (.cons (.refl _ _) (.cons (.of_children (.cons ?signals .nil))
    (.cons (.refl _ _) (.cons (.refl _ _) .nil)))))
  refine .of_children (.cons (.of ?_ (.cons (.of_children (.cons (.of ?_ .nil) .nil)) .nil)) .nil)
  · exact .cons ⟨rfl, hcontroller.imp id fun h => ⟨⟨["RoadNetwork"], by decide, _, rfl⟩, rfl, h⟩⟩ .nil
  · exact .cons ⟨rfl, hhead.imp id fun h => ⟨⟨["RoadNetwork"], by decide, _, rfl⟩, rfl, h⟩⟩ .nil

theorem signalled_names : Parameters.Names (parametersOf (signalled "$Name" "$Head")) "$Name" "main" ∧
    Parameters.Names (parametersOf (signalled "$Name" "$Head")) "$Head" "north" := by
  constructor
  · exact ⟨"Name", ⟨"Name", .string, "main"⟩, by decide, by decide, rfl, by decide⟩
  · exact ⟨"Head", ⟨"Head", .string, "north"⟩, by decide, by decide, rfl, by decide⟩

theorem stage_signalled : (stage .bare (signalled "$Name" "$Head")).run .blank =
    .ok ⟨(finalStage .bare .blank (signalled "$Name" "$Head")).scene.withReferences,
      (finalStage .bare .blank (signalled "$Name" "$Head")).journal⟩ :=
  run_stage_of_isOk (by decide)

end Sample

theorem sample_spelledOut_controller : ∃ staged staged',
    (stage .bare (Sample.signalled "$Name" "$Head")).run .blank = .ok staged ∧
    (stage .bare (Sample.signalled "main" "$Head")).run .blank = .ok staged' ∧ staged'.scene = staged.scene := by
  have hvaries := Sample.signalled_varies (.inr Sample.signalled_names.1) (.inl (Eq.refl "$Head"))
  obtain ⟨staged', hstaged', hscene, -, hsignals, hweather⟩ :=
    stage_spelledOut_setting Sample.stage_signalled hvaries
  refine ⟨_, staged', Sample.stage_signalled, hstaged', ?_⟩
  rw [hscene, hsignals (by decide), hweather (by decide)]

theorem spelledOut_head_differs :
    (Sample.signalled "$Name" "$Head").Varies (spelledOut settingParts (fun _ _ => false)
      (parametersOf (Sample.signalled "$Name" "$Head"))) [] (Sample.signalled "$Name" "north") ∧
    ∃ staged staged', (stage .bare (Sample.signalled "$Name" "$Head")).run .blank = .ok staged ∧
      (stage .bare (Sample.signalled "$Name" "north")).run .blank = .ok staged' ∧
      (staged.scene.signals.get? 1).map (·.heads) = some ["$Head"] ∧
      (staged'.scene.signals.get? 1).map (·.heads) = some ["north"] ∧ staged'.scene ≠ staged.scene := by
  refine ⟨Sample.signalled_varies (.inl rfl) (.inr Sample.signalled_names.2), ?_⟩
  have hheads : ((finalStage .bare .blank (Sample.signalled "$Name" "$Head")).scene.withReferences.signals.get? 1).map
      (·.heads) = some ["$Head"] := by decide
  have hheads' : ((finalStage .bare .blank (Sample.signalled "$Name" "north")).scene.withReferences.signals.get? 1).map
      (·.heads) = some ["north"] := by decide
  refine ⟨_, _, Sample.stage_signalled, run_stage_of_isOk (by decide), hheads, hheads', fun hscene => ?_⟩
  dsimp only at hscene
  rw [← hscene, hheads'] at hheads
  exact absurd hheads (by decide)

end Samples

end Scenography
