import Scenography.Proofs.Inlined.Opening
import Scenography.Proofs.Rerouting

namespace Scenography

open Markup (Element Spelling)

open Staging

section Documents

variable {sources : Sources} {map : RoadMap} {ps : List Parameter} {root root' : Element} {staged : Staged}
  {sections sections' : Sections}

theorem sections_inlined (hs : Sections.ofRoot root = .ok sections) (h : InlinedDocument sources.catalog root root') :
    ∃ sections', Sections.ofRoot root' = .ok sections' ∧ sections.header.Alike .bare sections'.header ∧
      sections.entities.Alike .bare sections'.entities ∧
      InlinedInit sources.catalog (parametersOf root) sections.init sections'.init ∧
      InlinedStoryboard sources.catalog (parametersOf root) sections.storyboard sections'.storyboard := by
  obtain ⟨hname, hstoryboard, hinit, hheader, hentities⟩ := Sections.ofRoot_eq_ok_iff.1 hs
  obtain ⟨storyboard', hstoryboard', hinlined⟩ := exists_of_optionRel (h.child? "Storyboard") hstoryboard
  obtain ⟨init', hinit', hinlinedInit⟩ := exists_of_optionRel (hinlined.child? "Init") hinit
  obtain ⟨header', hheader', haheader⟩ := exists_of_optionRel (h.child? "FileHeader") hheader
  obtain ⟨entities', hentities', haentities⟩ := exists_of_optionRel (h.child? "Entities") hentities
  exact ⟨⟨header', entities', storyboard', init'⟩, Sections.ofRoot_eq_ok_iff.2
    ⟨h.1.1 ▸ hname, hstoryboard', hinit', hheader', hentities'⟩, haheader, haentities, hinlinedInit, hinlined⟩

theorem opening_inlined (map : RoadMap) (h : InlinedDocument sources.catalog root root')
    (hheaders : sections.header.Alike .bare sections'.header)
    (hentities : sections.entities.Alike .bare sections'.entities)
    (hinit : InlinedInit sources.catalog (parametersOf root) sections.init sections'.init) :
    (openStage sources map root sections).Agree Eq (parametersOf root) (openStage sources map root' sections') := by
  have hbare := Spelling.bare_faithful (parametersOf root)
  have hroads := h.child? "RoadNetwork"
  have hnear : (exec sources map (preamble root sections) {}).2.Agree (Aside.Near True True) (parametersOf root)
      (exec sources map (preamble root' sections') {}).2 :=
    preamble_alike Spelling.bare_isLiteral hbare hbare Spelling.bare_keepsNames hheaders
      (h.child? "ParameterDeclarations") hroads hentities (fun _ => headsOf_eq Spelling.bare_isLiteral hroads) sources map
  have hpreamble : (exec sources map (preamble root sections) {}).2.Agree Eq (parametersOf root)
      (exec sources map (preamble root' sections') {}).2 :=
    hnear.mono fun _ _ => Aside.Near.eq
  have hrest : AgreeAt sources map Eq (parametersOf root) Eq
      (do init sections.init; modify fun s => { s with parameters := s.parameters.lock })
      (do init sections'.init; modify fun s => { s with parameters := s.parameters.lock }) :=
    .bind (init_inlined hinit) fun _ => .of_agree lock_agrees
  unfold openStage
  rw [opening_eq, opening_eq, exec_bind _ _ _ (preamble root sections), exec_bind _ _ _ (preamble root' sections')]
  exact (hrest _ _ hpreamble).2

/-- References to the catalog are as good as what it answers. -/
theorem stage_inlined (h : (stage sources root).run map = .ok staged)
    (hinlined : InlinedDocument sources.catalog root root') :
    ∃ staged', (stage sources root').run map = .ok staged' ∧ staged'.scene = staged.scene := by
  obtain ⟨sections, hs, -⟩ := run_stage h
  obtain ⟨sections', hs', hheaders, hentities, hinit, hstoryboard⟩ := sections_inlined hs hinlined
  have hstories : AgreeAt sources map Eq (parametersOf root) Eq ((sections.storyboard.childrenNamed "Story").forM story)
      ((sections'.storyboard.childrenNamed "Story").forM story) :=
    .forM (hstoryboard.childrenNamed "Story") fun _ _ => story_inlined
  have hopening := opening_inlined map hinlined hheaders hentities hinit
  exact run_stage_of_agree_eq h hs' (finalStage_agree hs hs' (hstories _ _ hopening).2)

end Documents

section Sample

theorem Inlined.of {ps : List Parameter} {find : String → Option Element} {label name : String}
    {reference fragment stood : Element} (hreference : reference.name = "CatalogReference") (hname : stood.name = name)
    (hother : reference.name ≠ name) (hfind : find (entryName ps reference) = some fragment)
    (hsame : fragment.SameChildren stood) : Inlined ps find name (.of label [] [reference]) (.of label [] [stood]) := by
  refine ⟨?_, ⟨rfl, rfl⟩, ?_⟩
  · rw [Element.child?_eq_none_iff, Element.elements_of]
    simpa using hother.symm
  · rw [Element.elements_of, Element.elements_of]
    exact .first hreference ⟨hname, fragment, hfind, hsame⟩ .nil

namespace Sample

def driving : List Element :=
  [event [timeTest "1"] [speedAction "go" "step" "0" "9"]]

def rounds : List Element :=
  [.of "Waypoint" [] [place "1" "2"], .of "Waypoint" [] [place "3" "4"]]

def loop : List Element :=
  [.of "Shape" [] [.of "Polyline" [] [.of "Vertex" [] [place "5" "6"]]]]

def rain : List Element :=
  [.of "Weather" [("cloudState", "rainy")] []]

def shelf : Catalog where
  entry? _ _ _ := none
  maneuver? name := if name = "drive" then some (.of "Maneuver" [("name", "drive")] driving) else none
  route? name := if name = "rounds" then some (.of "Route" [] rounds) else none
  trajectory? name := if name = "loop" then some (.of "Trajectory" [] loop) else none
  environment? name := if name = "rain" then some (.of "Environment" [] rain) else none

def stocked : Sources :=
  { Sources.bare with catalog := shelf }

def reference (entry : String) : Element :=
  .of "CatalogReference" [("entryName", entry)] []

def routed (action : Element) : Element :=
  .of "PrivateAction" [] [.of "RoutingAction" [] [action]]

def supplied (weather route trajectory : Element) (maneuvers : List Element) : Element :=
  .of "OpenSCENARIO" [] [
    .of "FileHeader" [] [],
    .of "ParameterDeclarations" [] [declaration "Which" "drive"],
    .of "Entities" [] [
      .of "ScenarioObject" [("name", "Car")] [.of "Vehicle" [("name", "Sedan")] []],
      .of "ScenarioObject" [("name", "Van")] [.of "Vehicle" [("name", "Sedan")] []]],
    .of "Storyboard" [] [
      .of "Init" [] [.of "Actions" [] [
        .of "GlobalAction" [] [.of "EnvironmentAction" [] [weather]],
        .of "Private" [("entityRef", "Car")] [routed (.of "AssignRouteAction" [] [route])]]],
      .of "Story" [] [.of "Act" [] [
        .of "ManeuverGroup" [] (actors "Car" :: maneuvers),
        .of "ManeuverGroup" [] [actors "Van", .of "Maneuver" [] [event [timeTest "2"] [
          .of "Action" [("name", "follow")] [
            routed (.of "FollowTrajectoryAction" [] [.of "TrajectoryRef" [] [trajectory]])]]]]]]]]
where
  actors (name : String) : Element :=
    .of "Actors" [] [.of "EntityRef" [("entityRef", name)] []]

def referring : Element :=
  supplied (reference "rain") (reference "rounds") (reference "loop") [reference "$Which", reference "lost"]

def inlined : Element :=
  supplied (.of "Environment" [] rain) (.of "Route" [] rounds) (.of "Trajectory" [] loop) [.of "Maneuver" [] driving]

theorem entryNames :
    entryName (parametersOf referring) (reference "rain") = "rain" ∧
    entryName (parametersOf referring) (reference "rounds") = "rounds" ∧
    entryName (parametersOf referring) (reference "loop") = "loop" ∧
    entryName (parametersOf referring) (reference "$Which") = "drive" ∧
    entryName (parametersOf referring) (reference "lost") = "lost" := by
  decide

theorem maneuvers_answered : (([reference "$Which", reference "lost"] : List Element).filterMap fun r =>
    shelf.maneuver? (entryName (parametersOf referring) r)) = [.of "Maneuver" [("name", "drive")] driving] := by
  obtain ⟨-, -, -, hwhich, hlost⟩ := entryNames
  simp [hwhich, hlost, shelf]

theorem referring_inlined : InlinedDocument stocked.catalog referring inlined := by
  obtain ⟨hrain, hrounds, hloop, -, -⟩ := entryNames
  refine .of (.cons ⟨rfl, rfl⟩ (.cons ⟨rfl, rfl⟩ (.cons ⟨rfl, rfl⟩ (.cons ⟨rfl, .of ?_⟩ .nil))))
  refine .cons ⟨rfl, .of (.cons ⟨rfl, .of (.cons ⟨rfl, .of ?weather⟩ (.cons ⟨rfl, .of ?route⟩ .nil))⟩ .nil)⟩
    (.cons ⟨rfl, .of (.cons ⟨rfl, .of (.cons ⟨rfl, .inl ?group⟩ (.cons ⟨rfl, .inr (.of ?maneuvers)⟩ .nil))⟩ .nil)⟩ .nil)
  case weather =>
    refine .cons ⟨rfl, .inr (.of rfl rfl (by decide) ?_ rfl)⟩ .nil
    rw [hrain]
    rfl
  case route =>
    refine .cons ⟨rfl, .of (.cons ⟨rfl, .of (.cons ⟨rfl, .inr (.of rfl rfl (by decide) ?_ rfl)⟩ .nil)⟩ .nil)⟩ .nil
    rw [hrounds]
    rfl
  case group =>
    refine ⟨⟨rfl, rfl⟩, fun name hmaneuver hreference => ?_, rfl, [], [.of "Maneuver" [] driving], rfl, .nil, ?_⟩
    · have hactors : (supplied.actors "Car").name = name →
          Element.Alike .bare (supplied.actors "Car") (supplied.actors "Car") := fun _ => rfl
      simpa [Element.childrenNamed, Element.elements_of, List.filter_cons, Element.name_of, reference, hmaneuver.symm,
        hreference.symm] using hactors
    · have hreferences : Element.childrenNamed (.of "ManeuverGroup" []
          [supplied.actors "Car", reference "$Which", reference "lost"]) "CatalogReference" =
          [reference "$Which", reference "lost"] := rfl
      rw [hreferences]
      exact maneuvers_answered ▸ .cons rfl .nil
  case maneuvers =>
    refine .cons ⟨rfl, rfl⟩ (.cons ⟨rfl, .of (.cons ⟨rfl, .of (.cons ⟨rfl, rfl⟩ (.cons ⟨rfl, .of ?_⟩ .nil))⟩ .nil)⟩ .nil)
    refine .cons ⟨rfl, .of (.cons ⟨rfl, .of (.cons ⟨rfl, .inr (.inr ⟨rfl, ⟨rfl, rfl⟩, ?_⟩)⟩ .nil)⟩ .nil)⟩ .nil
    refine .first rfl (.of rfl rfl (by decide) ?_ rfl) .nil
    rw [hloop]
    rfl

end Sample

theorem sample_inlined : ∃ staged staged', (stage Sample.stocked Sample.referring).run .blank = .ok staged ∧
    (stage Sample.stocked Sample.inlined).run .blank = .ok staged' ∧ staged'.scene = staged.scene ∧
    staged.scene.events.values.length = 2 ∧ staged.scene.routes.values.map (·.kind) = [.assigned, .trajectory] ∧
    staged.scene.weather.values.map (·.clouds) = ["rainy"] ∧ staged.journal.notices.length = 1 ∧
    staged'.journal.notices = [] := by
  have hstaged : (stage Sample.stocked Sample.referring).run .blank = .ok _ := run_stage_of_isOk (by decide)
  have hinlined : (stage Sample.stocked Sample.inlined).run .blank = .ok _ := run_stage_of_isOk (by decide)
  obtain ⟨staged', hstaged', hscene⟩ := stage_inlined hstaged Sample.referring_inlined
  refine ⟨_, staged', hstaged, hstaged', hscene, by decide +kernel, by decide +kernel, by decide +kernel,
    by decide +kernel, ?_⟩
  obtain rfl := Except.ok.inj (hstaged'.symm.trans hinlined)
  decide +kernel

end Sample

end Scenography
