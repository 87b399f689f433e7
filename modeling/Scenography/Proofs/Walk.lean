import Scenography.Proofs.Requests
import Scenography.Proofs.Cast

namespace Scenography

open Markup (Element)

namespace Staging

section Readers

variable (e : Element)

@[grind ←] theorem withCount_reads (overrides : KeyMap String String) (key : String) (c : Condition) :
    Reads (withCount overrides key c) := by
  unfold withCount
  grind

@[grind ←] theorem withCounts_reads (overrides : KeyMap String String) (actor event : String)
    (conditions : List Condition) : Reads (withCounts overrides actor event conditions) := by
  unfold withCounts
  grind

@[grind ←] theorem startConditions_reads (actor : String) : Reads (startConditions actor e).run := by
  unfold startConditions
  grind

@[grind ←] theorem actor_reads : Reads (actor e) := by
  unfold actor
  grind

@[grind ←] theorem cataloguedManeuver?_reads : Reads (cataloguedManeuver? e) := by
  unfold cataloguedManeuver?
  grind

@[grind ←] theorem maneuvers_reads : Reads (maneuvers e) := by
  unfold maneuvers
  grind

end Readers

def keptEvent (overrides : KeyMap String String) (actor : String) (e : Element) : Staging (Option Event) := do
  let kept ← draft overrides actor e
  match kept with
  | some event => storeEvent event
  | none => pure ()
  return kept

def keptOfGroup (overrides : KeyMap String String) (e : Element) : Staging (List Event) := do
  let actor ← actor e
  let maneuvers ← maneuvers e
  filterMap (keptEvent overrides actor) (maneuvers.flatMap (·.childrenNamed "Event"))

def keptOfStory (e : Element) : Staging (List Event) := do
  discard (attr e "name")
  List.flatten <$>
    ((e.childrenNamed "Act").flatMap (·.childrenNamed "ManeuverGroup")).mapM (keptOfGroup (storyParameters e))

def keptOfStories (storyboard : Element) : Staging (List Event) :=
  List.flatten <$> (storyboard.childrenNamed "Story").mapM keptOfStory

section Erasure

variable {sources : Sources} {map : RoadMap}

theorem exec_forM_eq_filterMap {α β : Type} {f : α → Staging PUnit} {g : α → Staging (Option β)}
    (h : ∀ a s, (exec sources map (f a) s).2 = (exec sources map (g a) s).2) (l : List α) (s : Stage) :
    (exec sources map (l.forM f) s).2 = (exec sources map (filterMap g l) s).2 := by
  induction l generalizing s with
  | nil => rfl
  | cons a l ih =>
    have hl : (a :: l).forM f = f a >>= fun _ => l.forM f := rfl
    rw [hl, exec_bind, h, ih]
    simp [filterMap]

theorem exec_forM_eq_mapM {α β : Type} {f : α → Staging PUnit} {g : α → Staging β}
    (h : ∀ a s, (exec sources map (f a) s).2 = (exec sources map (g a) s).2) (l : List α) (s : Stage) :
    (exec sources map (l.forM f) s).2 = (exec sources map (l.mapM g) s).2 := by
  induction l generalizing s with
  | nil => rfl
  | cons a l ih =>
    have hl : (a :: l).forM f = f a >>= fun _ => l.forM f := rfl
    rw [hl, exec_bind, h, ih]
    simp

theorem exec_event (overrides : KeyMap String String) (actor : String) (e : Element) (s : Stage) :
    (exec sources map (event overrides actor e) s).2 = (exec sources map (keptEvent overrides actor e) s).2 := by
  unfold event keptEvent
  simp only [exec_bind]
  cases (exec sources map (draft overrides actor e) s).1 with
  | none => rfl
  | some event => simp only [exec_bind, exec_pure]

theorem exec_group (overrides : KeyMap String String) (e : Element) (s : Stage) :
    (exec sources map (group overrides e) s).2 = (exec sources map (keptOfGroup overrides e) s).2 := by
  unfold group keptOfGroup
  simp only [exec_bind]
  exact exec_forM_eq_filterMap (exec_event overrides _) _ _

theorem exec_story (e : Element) (s : Stage) :
    (exec sources map (story e) s).2 = (exec sources map (keptOfStory e) s).2 := by
  unfold story keptOfStory
  simp only [exec_bind, exec_map]
  exact exec_forM_eq_mapM (exec_group _) _ _

theorem exec_stories (storyboard : Element) (s : Stage) :
    (exec sources map ((storyboard.childrenNamed "Story").forM story) s).2 =
      (exec sources map (keptOfStories storyboard) s).2 := by
  rw [keptOfStories, exec_map]
  exact exec_forM_eq_mapM exec_story _ _

end Erasure

theorem keptOfStories_carries {I : List Event → Stage → Prop}
    (hI : ∀ past (s : Stage) (j : Journal), I past s → I past { s with journal := j })
    (hstep : ∀ overrides actor e, Carries I (Option.toList <$> keptEvent overrides actor e))
    (storyboard : Element) : Carries I (keptOfStories storyboard) := by
  refine .flatMapM (fun story => .bind_keeps (fun past => ?_) fun _ => .flatMapM (fun group => ?_) _) _
  · exact .bind ((attr_reads _ _).keeps (hI past)) fun _ => .pure _
  · refine .bind_keeps (fun past => (actor_reads _).keeps (hI past)) fun actor => ?_
    exact .bind_keeps (fun past => (maneuvers_reads _).keeps (hI past)) fun _ => .filterMap (hstep _ actor) _

end Staging

open Staging

section Runs

variable (sources : Sources) (map : RoadMap) (root : Element)

def openStage (sections : Sections) : Stage :=
  (exec sources map (opening root sections) {}).2

/-- What the stories of a document keep, in the order of the walk, and the stage they leave. -/
def told : List Event × Stage :=
  match Sections.ofRoot root with
  | .ok sections => exec sources map (keptOfStories sections.storyboard) (openStage sources map root sections)
  | .error _ => ([], {})

def keptEvents : List Event :=
  (told sources map root).1

def finalStage : Stage :=
  (exec sources map shareTimelines (told sources map root).2).2

variable {sources map root}

theorem exec_document {sections : Sections} (h : Sections.ofRoot root = .ok sections) :
    (exec sources map (document root sections) {}).2 = finalStage sources map root := by
  simp only [document, exec_bind, finalStage, told, h, openStage, exec_stories]

theorem run_stage_of_sections {sections : Sections} (h : Sections.ofRoot root = .ok sections) :
    (stage sources root).run map =
      .ok ⟨(finalStage sources map root).scene.withReferences, (finalStage sources map root).journal⟩ := by
  rw [stage, h, ← exec_document h]
  exact Inquiry.run_bind map (document root sections sources {}) _

theorem run_stage_of_isOk (h : (Sections.ofRoot root).isOk = true) :
    (stage sources root).run map =
      .ok ⟨(finalStage sources map root).scene.withReferences, (finalStage sources map root).journal⟩ := by
  cases hs : Sections.ofRoot root with
  | error f =>
    rw [hs] at h
    cases h
  | ok sections => exact run_stage_of_sections hs

theorem run_stage {staged : Staged} (h : (stage sources root).run map = .ok staged) :
    ∃ sections, Sections.ofRoot root = .ok sections ∧
      staged = ⟨(finalStage sources map root).scene.withReferences, (finalStage sources map root).journal⟩ := by
  cases hs : Sections.ofRoot root with
  | error f =>
    rw [stage, hs] at h
    cases h
  | ok sections => exact ⟨sections, rfl, Except.ok.inj (h.symm.trans (run_stage_of_sections hs))⟩

theorem told_carries {I : List Event → Stage → Prop} {sections : Sections}
    (hI : ∀ past (s : Stage) (j : Journal), I past s → I past { s with journal := j })
    (hstep : ∀ overrides actor e, Carries I (Option.toList <$> keptEvent overrides actor e))
    (hroot : Sections.ofRoot root = .ok sections) (hopen : I [] (openStage sources map root sections)) :
    I (keptEvents sources map root) (told sources map root).2 := by
  have hwalk := keptOfStories_carries hI hstep sections.storyboard sources map [] _ hopen
  rw [List.nil_append] at hwalk
  have htold : told sources map root =
      exec sources map (keptOfStories sections.storyboard) (openStage sources map root sections) := by
    rw [told, hroot]
  rw [keptEvents, htold]
  exact hwalk

end Runs

section Sample

def Markup.Element.of (name : String) (attributes : List (String × String)) (children : List Element) : Element :=
  .mk name (.ofList attributes) (children.map .element) default

theorem Markup.Element.name_of (name : String) (attributes : List (String × String)) (children : List Element) :
    (Element.of name attributes children).name = name :=
  rfl

theorem Markup.Element.elements_of (name : String) (attributes : List (String × String)) (children : List Element) :
    (Element.of name attributes children).elements = children := by
  simp [Element.elements, Element.of, Element.children, List.filterMap_map]

def Sources.bare : Sources where
  settings := { Settings.standard with egoTypes := ∅, vehicleTypes := .ofNames ["Sedan"], pedestrianTypes := ∅ }
  catalog := ⟨fun _ _ _ => none, fun _ => none, fun _ => none, fun _ => none, fun _ => none⟩

namespace Sample

def timeTest (value : String) : Element :=
  .of "Condition" [] [.of "ByValueCondition" [] [
    .of "SimulationTimeCondition" [("rule", "greaterThan"), ("value", value)] []]]

def stateTest (reference : String) : Element :=
  .of "Condition" [] [.of "ByValueCondition" [] [
    .of "StoryboardElementStateCondition" [("storyboardElementRef", reference)] []]]

def speedAction (name shape rate target : String) : Element :=
  .of "Action" [("name", name)] [.of "PrivateAction" [] [.of "LongitudinalAction" [] [.of "SpeedAction" [] [
    .of "SpeedActionDynamics" [("dynamicsShape", shape), ("value", rate)] [],
    .of "SpeedActionTarget" [] [.of "AbsoluteTargetSpeed" [("value", target)] []]]]]]

def event (conditions actions : List Element) : Element :=
  .of "Event" [] (.of "StartTrigger" [] [.of "ConditionGroup" [] conditions] :: actions)

def group (actor : String) (events : List Element) : Element :=
  .of "ManeuverGroup" [] [.of "Actors" [] [.of "EntityRef" [("entityRef", actor)] []], .of "Maneuver" [] events]

def root : Element :=
  .of "OpenSCENARIO" [] [
    .of "FileHeader" [] [],
    .of "Entities" [] [
      .of "ScenarioObject" [("name", "Ego")] [.of "Vehicle" [("name", "Sedan")] []],
      .of "ScenarioObject" [("name", "Car")] [.of "Vehicle" [("name", "Sedan")] []]],
    .of "Storyboard" [] [
      .of "Init" [] [],
      .of "Story" [] [.of "Act" [] [
        group "car" [
          event [timeTest "1"] [speedAction "go" "linear" "2" "10", speedAction "cruise" "step" "0" "9"],
          event [timeTest "5", stateTest "go"] [speedAction "stop" "linear" "3" "0"]],
        group "EGO" [event [stateTest "stop"] [speedAction "follow" "step" "0" "5"]]]]]]

theorem root_sections : ∃ sections, Sections.ofRoot root = .ok sections := by
  have h : (Sections.ofRoot root).isOk = true := by decide
  cases hs : Sections.ofRoot root with
  | error f =>
    rw [hs] at h
    cases h
  | ok sections => exact ⟨sections, rfl⟩

theorem stage_root (map : RoadMap) : (stage .bare root).run map =
    .ok ⟨(finalStage .bare map root).scene.withReferences, (finalStage .bare map root).journal⟩ := by
  obtain ⟨sections, h⟩ := root_sections
  exact run_stage_of_sections h

end Sample

end Sample

end Scenography
